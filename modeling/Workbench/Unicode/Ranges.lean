/-!
Sets of characters by their borders.
-/

namespace Workbench.Unicode

/--
Is `n` in the set with these ascending borders? The set begins at the first border, ends before the
second, begins again at the third, and so on.
-/
def within : List Nat → Nat → Bool
  | [], _ => false
  | [first], n => first ≤ n
  | first :: past :: rest, n =>
    if n < first then false else n < past || within rest n

end Workbench.Unicode
