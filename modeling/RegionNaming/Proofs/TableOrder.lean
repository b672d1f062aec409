import RegionNaming.Proofs.ByteOrder
import RegionNaming.Toml.Reader

/-! The order of the tables of a document. However the entries of a table are written, in one place or
in many, they are read in ascending byte order of their keys. -/

namespace RegionNaming.Toml

/-- The keys of a table, and those of every table reached from it through tables, stand in strictly
ascending byte order. -/
inductive KeysAscend : List (String × Value) → Prop
  | intro {entries : List (String × Value)}
      (keys : entries.Pairwise fun a b => Text.bytes a.1 < Text.bytes b.1)
      (below : ∀ key inner, (key, .table inner) ∈ entries → KeysAscend inner) : KeysAscend entries

/-- The same of an unfinished table. Nothing is asked of arrays of tables: they end as arrays. -/
inductive DraftsAscend : Drafts → Prop
  | intro {entries : Drafts} (keys : entries.Pairwise fun a b => a.1 < b.1)
      (values : ∀ key inner, (key, .value (.table inner)) ∈ entries → KeysAscend inner)
      (tables : ∀ key kind sub, (key, .table kind sub) ∈ entries → DraftsAscend sub) :
      DraftsAscend entries

def Value.Ordered (v : Value) : Prop := ∀ inner, v = .table inner → KeysAscend inner

namespace Draft

def Ordered (d : Draft) : Prop :=
  (∀ v, d = .value v → v.Ordered) ∧ ∀ kind sub, d = .table kind sub → DraftsAscend sub

theorem draftsAscend_iff (entries : Drafts) :
    DraftsAscend entries ↔
      (entries.Pairwise fun a b => a.1 < b.1) ∧ ∀ e ∈ entries, e.2.Ordered := by
  constructor
  · rintro ⟨keys, values, tables⟩
    refine ⟨keys, ?_⟩
    rintro ⟨key, d⟩ hm
    refine ⟨?_, ?_⟩
    · rintro _ rfl inner rfl
      exact values key inner hm
    · rintro kind sub rfl
      exact tables key kind sub hm
  · rintro ⟨keys, each⟩
    refine ⟨keys, ?_, ?_⟩
    · intro key inner hm
      exact (each _ hm).1 _ rfl inner rfl
    · intro key kind sub hm
      exact (each _ hm).2 kind sub rfl

theorem draftsAscend_nil : DraftsAscend [] := (draftsAscend_iff []).2 ⟨.nil, nofun⟩

theorem mem_of_find? {key : String} {d : Draft} {entries : Drafts}
    (h : find? key entries = some d) : (key, d) ∈ entries := by
  induction entries with
  | nil => cases h
  | cons e rest ih =>
    rw [find?] at h
    split at h
    case isTrue hk =>
      cases h
      rw [← hk]
      exact List.mem_cons_self
    case isFalse => exact List.mem_cons_of_mem e (ih h)

theorem of_mem_put {key : String} {d : Draft} {entries : Drafts} {e : String × Draft}
    (h : e ∈ put key d entries) : e = (key, d) ∨ e ∈ entries := by
  induction entries with
  | nil => exact .inl (List.mem_singleton.1 h)
  | cons c rest ih =>
    rw [put] at h
    split at h
    · exact List.mem_cons.1 h
    · split at h
      · exact (List.mem_cons.1 h).imp_right (List.mem_cons_of_mem c)
      · rcases List.mem_cons.1 h with rfl | h
        · exact .inr List.mem_cons_self
        · exact (ih h).imp_right (List.mem_cons_of_mem c)

theorem pairwise_put (key : String) (d : Draft) {entries : Drafts}
    (h : entries.Pairwise fun a b => a.1 < b.1) :
    (put key d entries).Pairwise fun a b => a.1 < b.1 := by
  induction entries with
  | nil => exact List.pairwise_singleton _ _
  | cons c rest ih =>
    obtain ⟨hc, hrest⟩ := List.pairwise_cons.1 h
    rw [put]
    split
    case isTrue hlt =>
      refine List.pairwise_cons.2 ⟨fun e he => ?_, h⟩
      rcases List.mem_cons.1 he with rfl | he
      · exact hlt
      · exact hlt.trans (hc e he)
    case isFalse hlt =>
      split
      case isTrue heq => exact List.pairwise_cons.2 ⟨fun e he => heq ▸ hc e he, hrest⟩
      case isFalse hne =>
        refine List.pairwise_cons.2 ⟨fun e he => ?_, ih hrest⟩
        rcases of_mem_put he with rfl | he
        · exact Options.key_lt_of_not_lt hlt hne
        · exact hc e he

theorem draftsAscend_put {key : String} {d : Draft} {entries : Drafts} (hd : d.Ordered)
    (h : DraftsAscend entries) : DraftsAscend (put key d entries) := by
  rw [draftsAscend_iff] at h ⊢
  refine ⟨pairwise_put key d h.1, fun e he => ?_⟩
  rcases of_mem_put he with rfl | he
  · exact hd
  · exact h.2 e he

theorem ordered_value {v : Value} (h : v.Ordered) : (Draft.value v).Ordered :=
  ⟨by rintro _ ⟨⟩; exact h, nofun⟩

theorem ordered_table {kind : TableKind} {sub : Drafts} (h : DraftsAscend sub) :
    (Draft.table kind sub).Ordered :=
  ⟨nofun, by rintro _ _ ⟨⟩; exact h⟩

theorem ordered_tables (items : List Drafts) : (Draft.tables items).Ordered := ⟨nofun, nofun⟩

theorem draftsAscend_of_find? {key : String} {kind : TableKind} {sub entries : Drafts}
    (h : DraftsAscend entries) (hf : find? key entries = some (.table kind sub)) :
    DraftsAscend sub :=
  (((draftsAscend_iff entries).1 h).2 _ (mem_of_find? hf)).2 kind sub rfl

def KeepsOrder (change : TableKind → Drafts → Option Drafts) : Prop :=
  ∀ kind entries out, DraftsAscend entries → change kind entries = some out → DraftsAscend out

/-- What is changed at the end of a path leaves the tables on the way in order too. -/
theorem keepsOrder_descend (dotted : Bool) {change : TableKind → Drafts → Option Drafts}
    (hc : KeepsOrder change) (path : List String) : KeepsOrder (descend dotted change path) := by
  induction path with
  | nil => exact hc
  | cons key path ih =>
    intro kind entries out h ho
    rw [descend] at ho
    split at ho
    case h_1 =>
      obtain ⟨sub, hs, ⟨⟩⟩ := Option.bind_eq_some_iff.1 ho
      exact draftsAscend_put (ordered_table (ih _ _ _ draftsAscend_nil hs)) h
    case h_2 inner sub hf =>
      split at ho
      · cases ho
      · obtain ⟨sub', hs, ⟨⟩⟩ := Option.bind_eq_some_iff.1 ho
        exact draftsAscend_put (ordered_table (ih _ _ _ (draftsAscend_of_find? h hf) hs)) h
    case h_3 =>
      obtain ⟨latest, _, ⟨⟩⟩ := Option.bind_eq_some_iff.1 ho
      exact draftsAscend_put (ordered_tables _) h
    case h_4 => cases ho
    case h_5 => cases ho

theorem draftsAscend_addValue {path : List String} {key : String} {v : Value} (hv : v.Ordered)
    {entries out : Drafts} (h : DraftsAscend entries)
    (ho : addValue path key v entries = some out) : DraftsAscend out := by
  refine keepsOrder_descend _ ?_ path _ _ _ h ho
  intro kind sub out hs ho
  dsimp only at ho
  split at ho
  · cases ho
  · split at ho
    · cases ho
    · cases ho
      exact draftsAscend_put (ordered_value hv) hs

theorem draftsAscend_openTable {path : List String} {key : String} {entries out : Drafts}
    (h : DraftsAscend entries) (ho : openTable path key entries = some out) : DraftsAscend out := by
  refine keepsOrder_descend _ ?_ path _ _ _ h ho
  intro kind sub out hs ho
  dsimp only at ho
  split at ho
  case h_1 =>
    cases ho
    exact draftsAscend_put (ordered_table draftsAscend_nil) hs
  case h_2 hf =>
    cases ho
    exact draftsAscend_put (ordered_table (draftsAscend_of_find? hs hf)) hs
  case h_3 => cases ho

theorem draftsAscend_openItem {path : List String} {key : String} {entries out : Drafts}
    (h : DraftsAscend entries) (ho : openItem path key entries = some out) : DraftsAscend out := by
  refine keepsOrder_descend _ ?_ path _ _ _ h ho
  intro kind sub out hs ho
  dsimp only at ho
  split at ho
  case h_1 =>
    cases ho
    exact draftsAscend_put (ordered_tables _) hs
  case h_2 =>
    cases ho
    exact draftsAscend_put (ordered_tables _) hs
  case h_3 => cases ho

theorem draftsAscend_within {path header : List String} {key : String} {v : Value}
    (hv : v.Ordered) {entries out : Drafts} (h : DraftsAscend entries)
    (ho : within (addValue path key v) header entries = some out) : DraftsAscend out :=
  keepsOrder_descend _ (fun _ _ _ hs ho => draftsAscend_addValue hv hs ho) header _ _ _ h ho

theorem finishAll_eq_map (entries : Drafts) :
    finishAll entries = entries.map fun e => (e.1, e.2.finish) := by
  induction entries with
  | nil => rw [finishAll, List.map_nil]
  | cons e rest ih => rw [finishAll, List.map_cons, ih]

/-- What tables in order come to is in order. -/
theorem keysAscend_finishAll {entries : Drafts} (h : DraftsAscend entries) :
    KeysAscend (finishAll entries) := by
  induction h with
  | intro keys values _ ih =>
    rw [finishAll_eq_map]
    refine ⟨?_, ?_⟩
    · exact keys.map _ fun a b hab => (Text.lt_iff_bytes_lt a.1 b.1).1 hab
    · intro key inner hm
      obtain ⟨⟨k, d⟩, hd, he⟩ := List.mem_map.1 hm
      cases d with
      | value v =>
        rw [Draft.finish] at he
        cases he
        exact values k inner hd
      | table kind sub =>
        rw [Draft.finish] at he
        cases he
        exact ih k kind sub hd
      | tables items =>
        rw [Draft.finish] at he
        cases he

end Draft

section Words

/-! The words of a document stand for numbers, truth values, dates and times, never for tables. -/

private theorem forall_mem_bind {α β : Type} {P : β → Prop} (o : Option α) {f : α → Option β}
    (h : ∀ a, ∀ b ∈ f a, P b) : ∀ b ∈ o.bind f, P b := by
  intro b hb
  obtain ⟨a, _, hb⟩ := Option.bind_eq_some_iff.1 hb
  exact h a b hb

private theorem forall_mem_ite {α : Type} {P : α → Prop} {c : Prop} [Decidable c] {a b : Option α}
    (ha : ∀ x ∈ a, P x) (hb : ∀ x ∈ b, P x) : ∀ x ∈ (if c then a else b), P x := by
  split
  · exact ha
  · exact hb

private theorem ordered_of_bounded? (n : Int) : ∀ v ∈ bounded? n, v.Ordered := by
  have hx : ∀ v ∈ some (Value.integer n), v.Ordered := by
    rintro _ ⟨⟩
    nofun
  exact forall_mem_ite hx nofun

private theorem ordered_of_float? (cs : List Char) : ∀ v ∈ float? cs, v.Ordered := by
  have hx (x : Number.Binary64) : ∀ v ∈ some (Value.float x), v.Ordered := by
    rintro _ ⟨⟩
    nofun
  have hdigits {digits : List Char} {negative : Bool} {e : Int} {k : Nat} :
      ∀ v ∈ (digitsValue? 10 digits).bind fun n =>
        (Number.Binary64.ofDecimal? negative n k e).bind fun x => some (Value.float x), v.Ordered :=
    forall_mem_bind _ fun n => forall_mem_bind _ hx
  simp only [float?, Option.bind_eq_bind]
  refine forall_mem_ite (hx _) (forall_mem_ite (hx _) (forall_mem_ite nofun ?_))
  refine forall_mem_bind _ fun whole => ?_
  -- a fraction and an exponent may be there or not
  split
  all_goals
    refine forall_mem_bind _ fun part => forall_mem_ite nofun ?_
    split
    · exact forall_mem_bind _ fun e => hdigits
    · exact forall_mem_bind _ fun e => hdigits

private theorem ordered_of_dateTime? (cs : List Char) : ∀ v ∈ dateTime? cs, v.Ordered := by
  have hx (x : DateTime) : ∀ v ∈ some (Value.dateTime x), v.Ordered := by
    rintro _ ⟨⟩
    nofun
  simp only [dateTime?, Option.bind_eq_bind]
  split
  · exact hx _
  · split
    · exact forall_mem_bind _ fun t => forall_mem_bind _ fun offset => hx _
    · nofun
  · split
    · exact hx _
    · nofun

theorem ordered_of_scalar? (cs : List Char) : ∀ v ∈ scalar? cs, v.Ordered := by
  have hbool (b : Bool) : ∀ v ∈ some (Value.boolean b), v.Ordered := by
    rintro _ ⟨⟩
    nofun
  have hbased (base : Nat) (cs : List Char) : ∀ v ∈ basedInteger? base cs, v.Ordered :=
    forall_mem_bind _ fun ds => forall_mem_bind _ fun n => ordered_of_bounded? _
  have hint (cs : List Char) : ∀ v ∈ integer? cs, v.Ordered :=
    forall_mem_bind _ fun ds => forall_mem_bind _ fun n => ordered_of_bounded? _
  unfold scalar?
  refine forall_mem_ite (hbool _) (forall_mem_ite (hbool _) ?_)
  split
  · exact hbased _ _
  · exact hbased _ _
  · exact hbased _ _
  · simp only [Option.orElse_eq_or, Option.mem_def, Option.or_eq_some_iff]
    rintro v ((hv | ⟨_, hv⟩) | ⟨_, hv⟩)
    · exact hint _ v hv
    · exact ordered_of_float? _ v hv
    · exact ordered_of_dateTime? _ v hv

end Words

/-- What is read with some fuel is in order, tables written as values among it. -/
structure ReadsOrdered (fuel : Nat) : Prop where
  value : ∀ depth cs v rest, value? fuel depth cs = some (v, rest) → v.Ordered
  items : ∀ depth done cs v rest, items? fuel depth done cs = some (v, rest) → v.Ordered
  fields : ∀ depth done cs v rest, DraftsAscend done → fields? fuel depth done cs = some (v, rest) →
    v.Ordered

theorem ordered_array (items : List Value) : (Value.array items).Ordered := nofun

theorem ordered_finishAll {done : Drafts} (h : DraftsAscend done) :
    (Value.table (Draft.finishAll done)).Ordered := by
  rintro _ ⟨⟩
  exact Draft.keysAscend_finishAll h

section Step

variable {fuel depth : Nat} {cs rest : List Char} {v : Value}

theorem ReadsOrdered.value_succ (ih : ReadsOrdered fuel)
    (h : value? (fuel + 1) depth cs = some (v, rest)) : v.Ordered := by
  unfold value? at h
  split at h
  · cases h
  · split at h
    · obtain ⟨_, _, ⟨⟩⟩ := Option.map_eq_some_iff.1 h
      nofun
    · split at h
      · split at h
        · cases h
        · exact ih.items _ _ _ _ _ h
      · split at h
        · split at h
          · cases h
          · exact ih.fields _ _ _ _ _ Draft.draftsAscend_nil h
        · obtain ⟨_, hw, ⟨⟩⟩ := Option.map_eq_some_iff.1 h
          exact ordered_of_scalar? _ _ hw

theorem ReadsOrdered.items_succ (ih : ReadsOrdered fuel) {done : List Value}
    (h : items? (fuel + 1) depth done cs = some (v, rest)) : v.Ordered := by
  unfold items? at h
  obtain ⟨_, _, h⟩ := Option.bind_eq_some_iff.1 h
  split at h
  · cases h
    exact ordered_array _
  · obtain ⟨_, _, h⟩ := Option.bind_eq_some_iff.1 h
    obtain ⟨_, _, h⟩ := Option.bind_eq_some_iff.1 h
    split at h
    · exact ih.items _ _ _ _ _ h
    · cases h
      exact ordered_array _
    · cases h

theorem ReadsOrdered.fields_succ (ih : ReadsOrdered fuel) {done : Drafts} (hdone : DraftsAscend done)
    (h : fields? (fuel + 1) depth done cs = some (v, rest)) : v.Ordered := by
  unfold fields? at h
  obtain ⟨_, _, h⟩ := Option.bind_eq_some_iff.1 h
  split at h
  · cases h
    exact ordered_finishAll hdone
  · obtain ⟨⟨⟨path, key⟩, _⟩, _, h⟩ := Option.bind_eq_some_iff.1 h
    dsimp only at h
    split at h
    · obtain ⟨⟨w, _⟩, hv, h⟩ := Option.bind_eq_some_iff.1 h
      obtain ⟨done', hadd, h⟩ := Option.bind_eq_some_iff.1 h
      obtain ⟨_, _, h⟩ := Option.bind_eq_some_iff.1 h
      have hdone' := Draft.draftsAscend_addValue (ih.value _ _ _ _ hv) hdone hadd
      split at h
      · exact ih.fields _ _ _ _ _ hdone' h
      · cases h
        exact ordered_finishAll hdone'
      · cases h
    · cases h

end Step

theorem readsOrdered (fuel : Nat) : ReadsOrdered fuel := by
  induction fuel with
  | zero => constructor <;> simp [value?, items?, fields?]
  | succ fuel ih =>
    exact ⟨fun _ _ _ _ => ih.value_succ, fun _ _ _ _ _ => ih.items_succ,
      fun _ _ _ _ _ => ih.fields_succ⟩

/-- What a line of a document does to what was read before it: it opens an item of an array of tables,
opens a table, or adds a value to the table at hand. -/
inductive LineChange (header : List String) (done : Drafts) : Drafts → Prop
  | item {path : List String} {key : String} {next : Drafts}
      (h : Draft.openItem path key done = some next) : LineChange header done next
  | table {path : List String} {key : String} {next : Drafts}
      (h : Draft.openTable path key done = some next) : LineChange header done next
  | value {fuel depth : Nat} {cs rest : List Char} {v : Value} {path : List String} {key : String}
      {next : Drafts} (hv : value? fuel depth cs = some (v, rest))
      (h : Draft.within (Draft.addValue path key v) header done = some next) :
      LineChange header done next

theorem LineChange.draftsAscend {header : List String} {done next : Drafts}
    (h : LineChange header done next) (hdone : DraftsAscend done) : DraftsAscend next := by
  cases h with
  | item h => exact Draft.draftsAscend_openItem hdone h
  | table h => exact Draft.draftsAscend_openTable hdone h
  | value hv h => exact Draft.draftsAscend_within ((readsOrdered _).value _ _ _ _ hv) hdone h

/-- A document ends, or has a line before the rest of it. -/
theorem document?_cases {fuel : Nat} {header : List String} {done out : Drafts} {cs : List Char}
    (h : document? (fuel + 1) header done cs = some out) :
    out = done ∨ ∃ header' next rest, LineChange header done next ∧
      document? fuel header' next rest = some out := by
  unfold document? at h
  obtain ⟨_, _, h⟩ := Option.bind_eq_some_iff.1 h
  split at h
  case h_1 =>
    cases h
    exact .inl rfl
  -- every other line has a key, and a mark behind it
  all_goals
    obtain ⟨⟨⟨path, key⟩, _⟩, _, h⟩ := Option.bind_eq_some_iff.1 h
    dsimp only at h
    split at h
    case h_2 => cases h
  · obtain ⟨next, ho, h⟩ := Option.bind_eq_some_iff.1 h
    obtain ⟨_, _, h⟩ := Option.bind_eq_some_iff.1 h
    exact .inr ⟨_, next, _, .item ho, h⟩
  · obtain ⟨next, ho, h⟩ := Option.bind_eq_some_iff.1 h
    obtain ⟨_, _, h⟩ := Option.bind_eq_some_iff.1 h
    exact .inr ⟨_, next, _, .table ho, h⟩
  · obtain ⟨⟨v, _⟩, hv, h⟩ := Option.bind_eq_some_iff.1 h
    obtain ⟨next, ho, h⟩ := Option.bind_eq_some_iff.1 h
    obtain ⟨_, _, h⟩ := Option.bind_eq_some_iff.1 h
    exact .inr ⟨_, next, _, .value hv ho, h⟩

theorem draftsAscend_document? {fuel : Nat} {header : List String} {done out : Drafts}
    {cs : List Char} (hdone : DraftsAscend done) (h : document? fuel header done cs = some out) :
    DraftsAscend out := by
  induction fuel generalizing header done cs with
  | zero => simp [document?] at h
  | succ fuel ih =>
    rcases document?_cases h with rfl | ⟨_, next, _, hline, hrest⟩
    · exact hdone
    · exact ih (hline.draftsAscend hdone) hrest

/-- A document is read as tables in ascending byte order of their keys. -/
theorem keysAscend_read? {text : String} {entries : List (String × Value)}
    (h : read? text = some entries) : KeysAscend entries := by
  obtain ⟨out, ho, rfl⟩ := Option.map_eq_some_iff.1 h
  exact Draft.keysAscend_finishAll (draftsAscend_document? Draft.draftsAscend_nil ho)

end RegionNaming.Toml
