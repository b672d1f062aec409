/-! Numbers that are written with a fixed count of places, and lengths of time in nanoseconds. -/

namespace RegionNaming

namespace Number

def padded (width n : Nat) : String :=
  let digits := toString n
  String.ofList (List.replicate (width - digits.length) '0') ++ digits

/-- The point and the places behind it, without zeros at their end; nothing if all of them are zero. -/
def fraction (places n : Nat) : String :=
  if n = 0 then ""
  else "." ++ String.ofList ((padded places n).toList.reverse.dropWhile (· = '0')).reverse

end Number

namespace Duration

def inUnit (places nanoseconds : Nat) : String :=
  toString (nanoseconds / Nat.pow 10 places) ++ Number.fraction places (nanoseconds % Nat.pow 10 places)

/-- A length of time in the greatest unit of which it holds a whole one. -/
def render (nanoseconds : Nat) : String :=
  if Nat.pow 10 9 ≤ nanoseconds then inUnit 9 nanoseconds ++ "s"
  else if Nat.pow 10 6 ≤ nanoseconds then inUnit 6 nanoseconds ++ "ms"
  else if Nat.pow 10 3 ≤ nanoseconds then inUnit 3 nanoseconds ++ "µs"
  else inUnit 0 nanoseconds ++ "ns"

example : [0, 100000000, 1050000, 2000000001].map render = ["0ns", "100ms", "1.05ms", "2.000000001s"] := by
  decide

end Duration

end RegionNaming
