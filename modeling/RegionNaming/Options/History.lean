import RegionNaming.Options.Assignment
import RegionNaming.Options.Document

/-! What is done to a store, one operation after another. -/

namespace RegionNaming.Options

inductive Operation where
  /-- Starts anew without options. -/
  | clear
  /-- Starts anew with the given entries. -/
  | collect (entries : List Entry)
  /-- Starts anew with the options of a document. -/
  | load (text : String)
  /-- Lays the options of a document over the store. -/
  | overlay (text : String)
  | insert (key value : String)
  | assign (text : String)
  | merge (other : Store)

inductive OperationError where
  | document (e : DocumentError)
  | assignment (e : AssignmentError)
deriving DecidableEq, Repr

/-- What an operation does. It works on the store in place: what it has changed before it fails stays
changed. -/
def Operation.action : Operation → ExceptT OperationError (StateM Store) Unit
  | .clear => set Store.empty
  | .collect entries => set (Store.ofList entries)
  | .load text => do
    let loaded ← MonadExcept.ofExcept ((Store.ofDocument text).mapError .document)
    set loaded
  | .overlay text => do
    let loaded ← MonadExcept.ofExcept ((Store.ofDocument text).mapError .document)
    modify (·.merge loaded)
  | .insert key value => modify (·.insert key value)
  | .assign text => do
    let (key, value) ← MonadExcept.ofExcept ((readAssignment text).mapError .assignment)
    modify (·.insert key value)
  | .merge other => modify (·.merge other)

def Operation.apply (s : Store) (op : Operation) : Except OperationError Unit × Store := op.action.run s

/-- A document that gives no options is found out before the store is touched. -/
theorem Operation.apply_of_document_error {text : String} {e : DocumentError}
    (h : Store.ofDocument text = .error e) (s : Store) :
    (load text).apply s = (.error (.document e), s) ∧
      (overlay text).apply s = (.error (.document e), s) := by
  rw [apply, apply, action, action, h]
  exact ⟨rfl, rfl⟩

def Operation.step (s : Store) (op : Operation) : Store := (op.apply s).2

def Store.after (ops : List Operation) : Store := ops.foldl Operation.step empty

end RegionNaming.Options
