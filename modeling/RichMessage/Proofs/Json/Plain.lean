import RichMessage.Proofs.Json.Order
import RichMessage.Proofs.Json.Reading

set_option autoImplicit false

namespace RichMessage.Json

/-- All numbers are integers, and no more than so many containers are nested. -/
structure Plain (depth : Nat) (node : Json) : Prop where
  integral : node.Integral
  shallow : node.depth ≤ depth

theorem Plain.mono {shallow deep : Nat} {node : Json} (plain : node.Plain shallow)
    (less : shallow ≤ deep) : node.Plain deep :=
  ⟨plain.integral, Nat.le_trans plain.shallow less⟩

@[simp] theorem plain_null (depth : Nat) : null.Plain depth :=
  ⟨trivial, Nat.zero_le _⟩

@[simp] theorem plain_str (depth : Nat) (text : String) : (str text).Plain depth :=
  ⟨trivial, Nat.zero_le _⟩

@[simp] theorem plain_bool (depth : Nat) (value : Bool) : (bool value).Plain depth :=
  ⟨trivial, Nat.zero_le _⟩

@[simp] theorem plain_ofWord (depth : Nat) (word : UInt64) : (ofWord word).Plain depth :=
  ⟨trivial, Nat.zero_le _⟩

@[simp] theorem plain_keyword {α : Type} [Keyword α] (depth : Nat) (value : α) :
    (Keyword.toJson value).Plain depth :=
  plain_str depth _

@[simp] theorem plain_orNull {α : Type} {depth : Nat} {write : α → Json} {value : Option α} :
    (orNull write value).Plain depth ↔ ∀ held ∈ value, (write held).Plain depth := by
  cases value with
  | none => simp [orNull]
  | some held => simp [orNull]

theorem plain_arr {depth : Nat} {items : List Json} (each : ∀ v ∈ items, v.Plain depth) :
    (arr items).Plain (depth + 1) :=
  ⟨integralItems_iff.mpr fun v member => (each v member).integral,
    Nat.succ_le_succ (itemsDepth_le_iff.mpr fun v member => (each v member).shallow)⟩

def PlainMembers (depth : Nat) (members : List (String × Json)) : Prop :=
  ∀ member ∈ members, member.2.Plain depth

@[simp] theorem plainMembers_nil (depth : Nat) : PlainMembers depth [] :=
  List.forall_mem_nil _

@[simp] theorem plainMembers_cons {depth : Nat} {member : String × Json}
    {members : List (String × Json)} :
    PlainMembers depth (member :: members) ↔ member.2.Plain depth ∧ PlainMembers depth members :=
  List.forall_mem_cons

@[simp] theorem plainMembers_append {depth : Nat} {first second : List (String × Json)} :
    PlainMembers depth (first ++ second) ↔ PlainMembers depth first ∧ PlainMembers depth second :=
  List.forall_mem_append

@[simp] theorem plainMembers_optionalMember {α : Type} {depth : Nat} {name : String}
    {write : α → Json} {value : Option α} :
    PlainMembers depth (optionalMember name write value) ↔
      ∀ held ∈ value, (write held).Plain depth := by
  cases value with
  | none => simp [optionalMember]
  | some held => simp [optionalMember]

theorem plain_obj {depth : Nat} {members : List (String × Json)}
    (plain : PlainMembers depth members) : (obj members).Plain (depth + 1) :=
  ⟨integralMembers_iff.mpr fun member listed => (plain member listed).integral,
    Nat.succ_le_succ (membersDepth_le_iff.mpr fun member listed => (plain member listed).shallow)⟩

/-- The text of a plain value is read as that value with its members in order. -/
theorem parse?_print_of_plain {depth : Nat} {node : Json} (plain : node.Plain depth)
    (few : depth ≤ Reader.maxDepth) (layout : Layout) :
    parse? (node.print layout) = some node.canonical := by
  rw [parse?_print layout plain.integral, if_pos (Nat.le_trans plain.shallow few)]

end RichMessage.Json
