import XmlNames.Property.Basic

set_option autoImplicit false

namespace XmlNames

structure Cursor where
  source : Namespace
  index : Nat
  deriving DecidableEq, Repr

def Namespace.properties (n : Namespace) : Cursor := ⟨n, 0⟩

namespace Cursor

def next (c : Cursor) : Option (String × Value) × Cursor :=
  let index := Property.nextIndex c.index
  ((Property.nameAt? index).map fun name => (name, c.source.property name), { c with index })

theorem next_advances {c d : Cursor} {pair : String × Value} (found : c.next = (some pair, d)) :
    2 - d.index < 2 - c.index := by
  obtain ⟨n, index⟩ := c
  match index with
  | 0 | 1 =>
    simp only [next, Prod.mk.injEq] at found
    simp [← found.2, Property.nextIndex]
  | index + 2 => simp [next, Property.nextIndex, Property.nameAt?] at found

def rest (c : Cursor) : List (String × Value) × Cursor :=
  match _found : c.next with
  | (none, d) => ([], d)
  | (some pair, d) => (pair :: d.rest.1, d.rest.2)
termination_by 2 - c.index
decreasing_by all_goals exact next_advances _found

end Cursor

inductive Move where
  | next (cursor : Nat)
  | rest (cursor : Nat)
  | clone (cursor : Nat)
  deriving DecidableEq, Repr

inductive Move.Answer where
  | item (pair : Option (String × Value))
  | items (pairs : List (String × Value))
  | cursor (number : Nat)
  deriving DecidableEq, Repr

namespace Move

-- A clone joins the family as its last member. There is no answer where there is no such cursor.
def run (family : List Cursor) : Move → Option (Answer × List Cursor)
  | next i => family[i]?.map fun c => (.item c.next.1, family.set i c.next.2)
  | rest i => family[i]?.map fun c => (.items c.rest.1, family.set i c.rest.2)
  | clone i => family[i]?.map fun c => (.cursor family.length, family ++ [c])

def runAll (family : List Cursor) : List Move → Option (List Answer)
  | [] => some []
  | move :: moves => do
    let (answer, family) ← move.run family
    return answer :: (← runAll family moves)

end Move

end XmlNames
