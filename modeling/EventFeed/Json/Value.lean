import EventFeed.Decimal.Shortest

/-!
# JSON values

A document is first read as it is written, members in textual order and repeated keys included. The
value it stands for has every object's members in ascending key order with each key once, the last of
equal keys kept; `Json.sorted` makes it so at every depth, and `Json.Ordered` says that it is so.
-/

namespace EventFeed

/-- A number: an integer of the signed or unsigned 64-bit range, or a double. -/
inductive Number where
  | integer (value : Int) (inRange : -9223372036854775808 ≤ value ∧ value < 18446744073709551616)
  | double (value : Binary64)
  deriving DecidableEq

theorem Number.inRange_ofNat {n : Nat} (small : n < 18446744073709551616) :
    -9223372036854775808 ≤ (n : Int) ∧ (n : Int) < 18446744073709551616 := by
  omega

inductive Json where
  | null
  | bool (value : Bool)
  | number (value : Number)
  | string (value : String)
  | array (items : List Json)
  | object (members : List (String × Json))

namespace Json

instance : Inhabited Json := ⟨.null⟩

def ofNat (n : Nat) : Json :=
  if h : n < 18446744073709551616 then .number (.integer n (Number.inRange_ofNat h))
  else .number (.double (Binary64.ofNat n))

/-- Puts a member into members in key order. A member that is already there under the key stays. -/
def insertMember (key : String) (value : Json) : List (String × Json) → List (String × Json)
  | [] => [(key, value)]
  | (other, held) :: rest =>
      if key < other then (key, value) :: (other, held) :: rest
      else if key = other then (other, held) :: rest
      else (other, held) :: insertMember key value rest

mutual

/-- The value a document stands for: members in key order, the last of equal keys kept. -/
def sorted : Json → Json
  | .null => .null
  | .bool value => .bool value
  | .number value => .number value
  | .string value => .string value
  | .array items => .array (sortedItems items)
  | .object members => .object (sortedMembers members)

def sortedItems : List Json → List Json
  | [] => []
  | item :: rest => item.sorted :: sortedItems rest

def sortedMembers : List (String × Json) → List (String × Json)
  | [] => []
  | (key, value) :: rest => insertMember key value.sorted (sortedMembers rest)

end

mutual

/-- Every object's keys ascend strictly, at every depth. -/
def Ordered : Json → Prop
  | .null => True
  | .bool _ => True
  | .number _ => True
  | .string _ => True
  | .array items => OrderedItems items
  | .object members => OrderedMembers members

def OrderedItems : List Json → Prop
  | [] => True
  | item :: rest => item.Ordered ∧ OrderedItems rest

def OrderedMembers : List (String × Json) → Prop
  | [] => True
  | (key, value) :: rest => value.Ordered ∧ (∀ entry ∈ rest, key < entry.1) ∧ OrderedMembers rest

end

theorem mem_insertMember {key : String} {value : Json} {members : List (String × Json)}
    {entry : String × Json} (present : entry ∈ insertMember key value members) :
    entry = (key, value) ∨ entry ∈ members := by
  induction members with
  | nil => simpa [insertMember] using present
  | cons first rest ih =>
      obtain ⟨other, held⟩ := first
      simp only [insertMember] at present
      split at present
      · simpa using present
      · split at present
        · exact .inr present
        · rcases List.mem_cons.1 present with same | later
          · exact .inr (by simp [same])
          · rcases ih later with same | inside
            · exact .inl same
            · exact .inr (List.mem_cons_of_mem _ inside)

theorem orderedMembers_insertMember {key : String} {value : Json} {members : List (String × Json)}
    (ordered : OrderedMembers members) (valueOrdered : value.Ordered) :
    OrderedMembers (insertMember key value members) := by
  induction members with
  | nil => simp [insertMember, OrderedMembers, valueOrdered]
  | cons first rest ih =>
      obtain ⟨other, held⟩ := first
      simp only [OrderedMembers] at ordered
      obtain ⟨heldOrdered, above, restOrdered⟩ := ordered
      simp only [insertMember]
      split
      · rename_i below
        refine ⟨valueOrdered, ?_, heldOrdered, above, restOrdered⟩
        intro entry present
        rcases List.mem_cons.1 present with same | later
        · simpa [same] using below
        · exact String.lt_trans below (above entry later)
      · split
        · exact ⟨heldOrdered, above, restOrdered⟩
        · rename_i notBelow different
          refine ⟨heldOrdered, ?_, ih restOrdered⟩
          intro entry present
          rcases mem_insertMember present with same | inside
          · subst same
            exact Decidable.byContradiction fun notAbove =>
              different (String.le_antisymm (String.not_lt.1 notAbove) (String.not_lt.1 notBelow))
          · exact above entry inside

mutual

/-- Sorting brings every object into key order. -/
theorem sorted_ordered : (document : Json) → document.sorted.Ordered
  | .null => trivial
  | .bool _ => trivial
  | .number _ => trivial
  | .string _ => trivial
  | .array items => sortedItems_ordered items
  | .object members => sortedMembers_ordered members

theorem sortedItems_ordered : (items : List Json) → OrderedItems (sortedItems items)
  | [] => trivial
  | item :: rest => ⟨sorted_ordered item, sortedItems_ordered rest⟩

theorem sortedMembers_ordered :
    (members : List (String × Json)) → OrderedMembers (sortedMembers members)
  | [] => trivial
  | (_, value) :: rest =>
      orderedMembers_insertMember (sortedMembers_ordered rest) (sorted_ordered value)

end

def member? (key : String) : List (String × Json) → Option Json
  | [] => none
  | (other, value) :: rest => if other = key then some value else member? key rest

end Json

end EventFeed
