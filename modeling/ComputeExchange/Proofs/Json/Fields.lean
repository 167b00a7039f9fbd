import ComputeExchange.Json.Record
import Mathlib.Tactic

/-!
# Fields of a written record

A record that is written with some of its fields, in their order, has exactly these fields when it
is read (`Json.fields?_record`).  So a field that is read as its kind is written has the value that
was written, whether a missing value is left out or written as null.
-/

namespace ComputeExchange.Json

/-! ### Scalars -/

@[simp] lemma asText_text (s : String) : asText (.text s) = some s := rfl

@[simp] lemma asBool_bool (b : Bool) : asBool (.bool b) = some b := rfl

@[simp] lemma asInt64_ofInt64 (i : Int64) : asInt64 (.ofInt64 i) = some i := by
  have hbounds : Int64.minValue.toInt ≤ i.toInt ∧ i.toInt ≤ Int64.maxValue.toInt :=
    ⟨Int64.minValue_le_toInt i, Int64.toInt_le i⟩
  rw [ofInt64, int, asInt64, if_pos hbounds, Int64.ofInt_toInt]

@[simp] lemma asUInt64_ofUInt64 (n : UInt64) : asUInt64 (.ofUInt64 n) = some n := by
  have hlt : (n.toNat : Int) < UInt64.size := Int.ofNat_lt.mpr n.toNat_lt
  rw [ofUInt64, int, asUInt64, if_pos ⟨Int.natCast_nonneg _, hlt⟩, Int.toNat_natCast,
    UInt64.ofNat_toNat]

/-- A list is read as it is written, if its items are. -/
lemma asList_map {α : Type} {read : Json → Option α} {write : α → Json}
    (hread : ∀ a, read (write a) = some a) (as : List α) :
    asList read (.array (as.map write)) = some as := by
  rw [asList]
  induction as with
  | nil => rfl
  | cons a as ih => simp [List.mapM_cons, hread, ih]

/-! ### Records -/

variable {names : List String} {members : List (String × Json)}

/-- A record has the fields that it is written with. -/
theorem fields?_record (hnames : (members.map (·.1)).Sublist names) (hnodup : names.Nodup) :
    (record members).fields? names = some ⟨members, false⟩ := by
  have hnamed : (members.map fun m => (some m.1, m.2)).mapM
      (fun m : Option String × Json => m.1.map (·, m.2)) = some members := by
    clear hnames
    induction members with
    | nil => rfl
    | cons m members ih => simp [List.mapM_cons, ih]
  have hfound : members.filter (names.contains ·.1) = members := by
    refine List.filter_eq_self.mpr fun m hm => ?_
    exact List.contains_iff_mem.mpr (hnames.subset (List.mem_map_of_mem hm))
  change ((members.map fun m => (some m.1, m.2)).mapM
    (fun m : Option String × Json => m.1.map (·, m.2))).bind
      (fun named => if ((named.filter (names.contains ·.1)).map (·.1)).Nodup then
        some (⟨named.filter (names.contains ·.1), false⟩ : Fields) else none) = _
  rw [hnamed, Option.bind_some, hfound, if_pos (hnames.nodup hnodup)]

variable {α : Type} {fs : Fields} {name : String} {read : Json → Option α} {write : α → Json}

/-- A field that must be there is read as it is written. -/
lemma Fields.required_eq {a : α} (hget : fs.get? name = some (write a))
    (hread : ∀ a, read (write a) = some a) : fs.required name read = some a := by
  rw [required, hget, Option.bind_some, hread]

/-- A field that is there and not null has a value. -/
lemma Fields.optional_some {j : Json} {a : α} {hasDefault : Bool} (hget : fs.get? name = some j)
    (hnull : j ≠ .null) (hread : read j = some a) :
    fs.optional name read hasDefault = some (some a) := by
  rw [optional, hget]
  cases j with
  | null => exact absurd rfl hnull
  | _ => exact congrArg (Option.map some) hread

/-- A field that is null if it has no value is read as it is written. -/
lemma Fields.optional_nullable {value : Option α} {hasDefault : Bool}
    (hget : fs.get? name = some ((value.map write).getD .null))
    (hread : ∀ a, read (write a) = some a) (hnull : ∀ a, write a ≠ .null) :
    fs.optional name read hasDefault = some value := by
  cases value with
  | none =>
    rw [optional, hget]
    rfl
  | some a => exact optional_some hget (hnull a) (hread a)

/-- A field that is left out if it has no value is read as it is written. -/
lemma Fields.optional_omittable {value : Option α} (hget : fs.get? name = value.map write)
    (hread : ∀ a, read (write a) = some a) (hnull : ∀ a, write a ≠ .null) :
    fs.optional name read true = some value := by
  cases value with
  | none =>
    rw [optional, hget]
    simp
  | some a => exact optional_some hget (hnull a) (hread a)

section Bind

variable {β : Type} {f : α → Option β} {g : Option α → Option β} {b : β}

/-- Reading goes on with the fields that a record is written with. -/
lemma bind_fields? {f : Fields → Option β} (hnames : (members.map (·.1)).Sublist names)
    (hnodup : names.Nodup) (hrest : f ⟨members, false⟩ = some b) :
    (record members).fields? names >>= f = some b := by
  rw [fields?_record hnames hnodup, Option.bind_eq_bind, Option.bind_some, hrest]

/-- Reading goes on after a field that must be there. -/
lemma Fields.bind_required {a : α} (hget : fs.get? name = some (write a))
    (hread : ∀ a, read (write a) = some a) (hrest : f a = some b) :
    fs.required name read >>= f = some b := by
  rw [required_eq hget hread, Option.bind_eq_bind, Option.bind_some, hrest]

/-- Reading goes on after a field that is null if it has no value. -/
lemma Fields.bind_nullable {value : Option α} {hasDefault : Bool}
    (hget : fs.get? name = some ((value.map write).getD .null))
    (hread : ∀ a, read (write a) = some a) (hnull : ∀ a, write a ≠ .null)
    (hrest : g value = some b) : fs.optional name read hasDefault >>= g = some b := by
  rw [optional_nullable hget hread hnull, Option.bind_eq_bind, Option.bind_some, hrest]

/-- Reading goes on after a field that is left out if it has no value. -/
lemma Fields.bind_omittable (value : Option α) (hget : fs.get? name = value.map write)
    (hread : ∀ a, read (write a) = some a) (hnull : ∀ a, write a ≠ .null)
    (hrest : g value = some b) : fs.optional name read true >>= g = some b := by
  rw [optional_omittable hget hread hnull, Option.bind_eq_bind, Option.bind_some, hrest]

end Bind

/-! ### Members that may be left out -/

section Omittable

variable (other : String) (write : α → Json) (value : Option α)

/-- A member that may be left out has its name, if any. -/
lemma omittable_sublist {rest : List (String × Json)} (h : (rest.map (·.1)).Sublist names) :
    ((omittable other write value ++ rest).map (·.1)).Sublist (other :: names) := by
  cases value with
  | none => exact h.cons other
  | some a => exact h.cons_cons other

/-- What stands under a name if there is one member that may be left out. -/
lemma lookup_omittable (name : String) :
    (omittable other write value).lookup name = if name = other then value.map write else none := by
  cases value with
  | none => simp [omittable]
  | some a =>
    by_cases hname : name = other
    · simp [omittable, hname]
    · simp [omittable, List.lookup_cons, hname, beq_false_of_ne hname]

/-- What stands under a name among members of which the first may be left out. -/
lemma lookup_omittable_append (name : String) (rest : List (String × Json)) :
    (omittable other write value ++ rest).lookup name =
      if name = other then (value.map write).or (rest.lookup name) else rest.lookup name := by
  rw [List.lookup_append, lookup_omittable]
  split_ifs <;> rfl

end Omittable

end ComputeExchange.Json
