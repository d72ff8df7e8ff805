import Mathlib.Algebra.Group.Int.Defs
import Mathlib.Data.List.TakeWhile

/-!
# JSON values, readers and schemas

A document that has been parsed is a value of `Json`.  An object lists its members
in the order of the text, and a name may occur twice: a reader finds the first
member, and a schema judges every one.

A reader states what it expects, and a value of another kind is a `Misuse`.  A
program that validates its input first is about to show that no reader of it is
misused.

A schema is the predicate that it decides, so the keywords of the schema language
are functions and a schema is their conjunction.  `of_properties` is how a schema
is used: what a reader finds under a name meets the schema of that name.
-/

/-- A JSON value. Numbers that are no integers are not told apart. -/
inductive Json
  | null
  | bool (b : Bool)
  | integer (n : Int)
  | double
  | string (s : String)
  | array (elements : List Json)
  | object (members : List (String × Json))

namespace Json

/-! ## Readers -/

/-- A reader that meets a value it does not expect. -/
inductive Misuse
  | wrongType
  | noMember
  deriving DecidableEq, Repr

/-- Two readers in a row that succeed are each a reader that succeeds. -/
theorem exists_of_bind_ok {α β : Type} {first : Except Misuse α} {second : α → Except Misuse β}
    {b : β} (hbind : (first >>= second) = .ok b) : ∃ a, first = .ok a ∧ second a = .ok b := by
  cases first with
  | error misuse => cases hbind
  | ok a => exact ⟨a, rfl, hbind⟩

theorem bind_eq_ok_iff {α β : Type} {first : Except Misuse α} {second : α → Except Misuse β}
    {b : β} : (first >>= second) = .ok b ↔ ∃ a, first = .ok a ∧ second a = .ok b := by
  refine ⟨exists_of_bind_ok, ?_⟩
  intro hboth
  obtain ⟨a, hfirst, hsecond⟩ := hboth
  rw [hfirst]
  exact hsecond

def isObject : Json → Bool
  | object _ => true
  | _ => false

/-- The first member of that name. -/
def member? (name : String) (members : List (String × Json)) : Option Json :=
  (members.find? fun m => m.1 = name).map Prod.snd

/-- The value under a name. -/
def get (json : Json) (name : String) : Except Misuse Json :=
  match json with
  | object members =>
    match member? name members with
    | some value => .ok value
    | none => .error .noMember
  | _ => .error .wrongType

/-- An object, for its members. -/
def getObject : Json → Except Misuse Json
  | object members => .ok (object members)
  | _ => .error .wrongType

def getArray : Json → Except Misuse (List Json)
  | array elements => .ok elements
  | _ => .error .wrongType

/-- An unsigned number of 32 bits. -/
def getUint : Json → Except Misuse UInt32
  | integer n =>
    if 0 ≤ n ∧ n < 2 ^ 32 then .ok (UInt32.ofNat n.toNat) else .error .wrongType
  | _ => .error .wrongType

/-- The characters of a string before the first null character, which is where a
program ends that reads it through a pointer. -/
def getString : Json → Except Misuse String
  | string s => .ok (String.ofList (s.toList.takeWhile fun c => c.toNat ≠ 0))
  | _ => .error .wrongType

/-- What is found under a name is a member. -/
theorem mem_of_get {json value : Json} {name : String} (hget : json.get name = .ok value) :
    ∃ members, json = object members ∧ (name, value) ∈ members := by
  cases json with
  | object members =>
    refine ⟨members, rfl, ?_⟩
    unfold get member? at hget
    cases hfind : members.find? (fun m => m.1 = name) with
    | none => simp [hfind] at hget
    | some m =>
      have hname : m.1 = name := by simpa using List.find?_some hfind
      simp only [hfind, Option.map_some, Except.ok.injEq] at hget
      rw [← hname, ← hget]
      exact List.mem_of_find?_eq_some hfind
  | _ => simp [get] at hget

/-- There is one value under a name. -/
theorem exists_get_iff {json value : Json} {name : String} {P : Json → Prop}
    (hget : json.get name = .ok value) : (∃ v, json.get name = .ok v ∧ P v) ↔ P value := by
  constructor
  · intro hsome
    obtain ⟨v, hv, hP⟩ := hsome
    obtain rfl : value = v := Except.ok.inj (hget.symm.trans hv)
    exact hP
  · intro hP
    exact ⟨value, hget, hP⟩

/-- There is one array under a name. -/
theorem exists_get_array_iff {json : Json} {elements : List Json} {name : String}
    {P : List Json → Prop} (hget : json.get name = .ok (array elements)) :
    (∃ es, json.get name = .ok (array es) ∧ P es) ↔ P elements := by
  constructor
  · intro hsome
    obtain ⟨es, hes, hP⟩ := hsome
    obtain rfl : elements = es := by
      cases hget.symm.trans hes
      rfl
    exact hP
  · intro hP
    exact ⟨elements, hget, hP⟩

/-- Only an object has a member. -/
theorem isObject_of_get {json value : Json} {name : String} (hget : json.get name = .ok value) :
    json.isObject = true := by
  obtain ⟨members, rfl, -⟩ := mem_of_get hget
  rfl

theorem getObject_eq_ok_iff {json object : Json} :
    json.getObject = .ok object ↔ json = object ∧ json.isObject = true := by
  constructor
  · intro hget
    cases json with
    | object members =>
      cases hget
      exact ⟨rfl, rfl⟩
    | _ => cases hget
  · intro hobject
    obtain ⟨rfl, hobject⟩ := hobject
    cases json with
    | object members => rfl
    | _ => cases hobject

theorem eq_array_of_getArray {json : Json} {elements : List Json}
    (harray : json.getArray = .ok elements) : json = array elements := by
  cases json <;> simp_all [getArray]

/-- The number that is read is the number that is written. -/
theorem getUint_eq_ok_iff {json : Json} {n : UInt32} :
    json.getUint = .ok n ↔ json = integer n.toNat := by
  constructor
  · intro hget
    cases json with
    | integer m =>
      unfold getUint at hget
      dsimp only at hget
      by_cases hrange : 0 ≤ m ∧ m < 2 ^ 32
      · rw [if_pos hrange] at hget
        cases hget
        have hlt : m.toNat < UInt32.size := (Int.toNat_lt hrange.1).mpr hrange.2
        rw [UInt32.toNat_ofNat_of_lt' hlt, Int.toNat_of_nonneg hrange.1]
      · rw [if_neg hrange] at hget
        cases hget
    | _ => cases hget
  · intro hjson
    have hlt := n.toNat_lt
    rw [hjson, getUint, if_pos (by omega), Int.toNat_natCast, UInt32.ofNat_toNat]

/-- The string before its first null character. -/
def untilNull (s : String) : String :=
  String.ofList (s.toList.takeWhile fun c => c.toNat ≠ 0)

theorem getString_eq_ok_iff {json : Json} {s : String} :
    json.getString = .ok s ↔ ∃ text, json = string text ∧ s = untilNull text := by
  constructor
  · intro hget
    cases json with
    | string text =>
      cases hget
      exact ⟨text, rfl, rfl⟩
    | _ => cases hget
  · intro htext
    obtain ⟨text, rfl, rfl⟩ := htext
    rfl

/-- There are no null characters. -/
def NullFree (s : String) : Prop := ∀ c ∈ s.toList, c.toNat ≠ 0

instance (s : String) : Decidable (NullFree s) :=
  decidable_of_iff (s.toList.all (fun c => c.toNat ≠ 0) = true)
    (by simp only [NullFree, List.all_eq_true, decide_eq_true_eq])

theorem untilNull_eq_self_iff {s : String} : untilNull s = s ↔ NullFree s := by
  unfold untilNull NullFree
  constructor
  · intro hself
    have hlist := congrArg String.toList hself
    rw [String.toList_ofList, List.takeWhile_eq_self_iff] at hlist
    intro c hc
    exact of_decide_eq_true (hlist c hc)
  · intro hfree
    rw [List.takeWhile_eq_self_iff.mpr fun c hc => decide_eq_true (hfree c hc),
      String.ofList_toList]

/-- What is read has no null characters. -/
theorem nullFree_untilNull (s : String) : NullFree (untilNull s) := by
  unfold untilNull NullFree
  intro c hc
  rw [String.toList_ofList] at hc
  exact of_decide_eq_true (List.mem_takeWhile_imp (p := fun c : Char => c.toNat ≠ 0) hc)

/-! ## Schemas -/

/-- A schema, as the values that it admits. -/
abbrev Schema := Json → Bool

namespace Schema

/-- All of the keywords that a schema has. -/
def all (schemas : List Schema) : Schema := fun json => schemas.all fun schema => schema json

/-- `"type": "object"`. -/
def typeObject : Schema := isObject

/-- `"type": "array"`. -/
def typeArray : Schema
  | array _ => true
  | _ => false

/-- `"type": "string"`. -/
def typeString : Schema
  | string _ => true
  | _ => false

/-- `"type": "integer"` with a `"minimum"`. -/
def integerFrom (minimum : Int) : Schema
  | integer n => minimum ≤ n
  | _ => false

/-- `"type": "integer"` with a `"minimum"` and a `"maximum"`. -/
def integerBetween (minimum maximum : Int) : Schema
  | integer n => minimum ≤ n ∧ n ≤ maximum
  | _ => false

/-- `"enum"`, of strings. -/
def enum (values : List String) : Schema
  | string s => values.contains s
  | _ => false

/-- `"items"`. -/
def items (schema : Schema) : Schema
  | array elements => elements.all schema
  | _ => true

/-- `"properties"`. -/
def properties (schemas : List (String × Schema)) : Schema
  | object members => members.all fun m => schemas.all fun p => p.1 ≠ m.1 || p.2 m.2
  | _ => true

/-- `"additionalProperties": false`, beside `"properties"` of these names. -/
def noAdditionalProperties (names : List String) : Schema
  | object members => members.all fun m => names.contains m.1
  | _ => true

/-- `"required"`. -/
def required (names : List String) : Schema
  | object members => names.all fun name => (member? name members).isSome
  | _ => true

theorem of_all {schemas : List Schema} {json : Json} (hall : all schemas json = true)
    {schema : Schema} (hmem : schema ∈ schemas) : schema json = true :=
  List.all_eq_true.mp hall schema hmem

/-- The elements of an array meet the schema of the items. -/
theorem of_items {schema : Schema} {json element : Json} {elements : List Json}
    (hitems : items schema json = true) (harray : json.getArray = .ok elements)
    (hmem : element ∈ elements) : schema element = true := by
  rw [eq_array_of_getArray harray] at hitems
  exact List.all_eq_true.mp hitems element hmem

/-- What is found under a name meets the schema of that name. -/
theorem of_properties {schemas : List (String × Schema)} {schema : Schema} {json value : Json}
    {name : String} (hproperties : properties schemas json = true)
    (hget : json.get name = .ok value) (hmem : (name, schema) ∈ schemas) :
    schema value = true := by
  obtain ⟨members, rfl, hmember⟩ := mem_of_get hget
  have hjudged := List.all_eq_true.mp hproperties _ hmember
  have hschema := List.all_eq_true.mp hjudged _ hmem
  simpa using hschema

/-- A member that is required is found. -/
theorem exists_get_of_required {names : List String} {json : Json} {name : String}
    (hrequired : required names json = true) (hobject : json.isObject = true)
    (hmem : name ∈ names) : ∃ value, json.get name = .ok value := by
  cases json with
  | object members =>
    have hsome := List.all_eq_true.mp hrequired name hmem
    obtain ⟨value, hvalue⟩ := Option.isSome_iff_exists.mp hsome
    refine ⟨value, ?_⟩
    rw [get, hvalue]
  | _ => cases hobject

theorem exists_of_integerBetween {minimum maximum : Int} {json : Json}
    (hschema : integerBetween minimum maximum json = true) :
    ∃ n, json = integer n ∧ minimum ≤ n ∧ n ≤ maximum := by
  cases json with
  | integer n => exact ⟨n, rfl, of_decide_eq_true hschema⟩
  | _ => cases hschema

theorem exists_of_typeString {json : Json} (hschema : typeString json = true) :
    ∃ s, json = string s := by
  cases json with
  | string s => exact ⟨s, rfl⟩
  | _ => cases hschema

theorem exists_of_typeArray {json : Json} (hschema : typeArray json = true) :
    ∃ elements, json = array elements := by
  cases json with
  | array elements => exact ⟨elements, rfl⟩
  | _ => cases hschema

theorem exists_of_enum {values : List String} {json : Json} (hschema : enum values json = true) :
    ∃ s, json = string s ∧ s ∈ values := by
  cases json with
  | string s => exact ⟨s, rfl, List.contains_iff_mem.mp hschema⟩
  | _ => cases hschema

/-- A string of an enumeration without null characters is read as it is. -/
theorem getString_of_enum {values : List String} {json : Json} {s : String}
    (henum : enum values json = true) (hget : json.getString = .ok s)
    (hplain : ∀ value ∈ values, (value.toList.all fun c => c.toNat ≠ 0) = true) :
    s ∈ values := by
  cases json with
  | string text =>
    have hmem : text ∈ values := by simpa [enum] using henum
    have hwhole : text.toList.takeWhile (fun c => c.toNat ≠ 0) = text.toList :=
      List.takeWhile_eq_self_iff.mpr (List.all_eq_true.mp (hplain text hmem))
    rw [getString, hwhole, String.ofList_toList] at hget
    rw [← Except.ok.inj hget]
    exact hmem
  | _ => cases henum

end Schema

end Json
