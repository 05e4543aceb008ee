import VmProvisioning.Fields
import VmProvisioning.Number.Binary64

/-!
# JSON values

Values as the cluster and the templates hold them. Whole numbers and doubles are kept apart, and
the members of an object are ordered by key.

## Main definitions

* `Json`: a value, with decidable equality
* `Json.at?` and the readers built on it: look-ups along a path that take everything missing or
  of another type as absent
-/

namespace VmProvisioning

/-- **A JSON value.** Numbers written without fraction and exponent that fit in 64 bits are whole
numbers, all others doubles. -/
inductive Json where
  | null
  | bool (value : Bool)
  | int (value : Int)
  | double (value : Binary64)
  | text (value : String)
  | array (items : List Json)
  | object (members : List (String × Json))
deriving Inhabited

namespace Json

/-! ## Equality -/

mutual

/-- Whether two values are the same, by recursion on both. -/
def same : Json → Json → Bool
  | null, null => true
  | bool a, bool b => a = b
  | int a, int b => a = b
  | double a, double b => a = b
  | text a, text b => a = b
  | array as, array bs => sameItems as bs
  | object as, object bs => sameMembers as bs
  | _, _ => false

/-- Whether two lists of values are the same. -/
def sameItems : List Json → List Json → Bool
  | [], [] => true
  | a :: as, b :: bs => same a b && sameItems as bs
  | _, _ => false

/-- Whether two lists of members are the same. -/
def sameMembers : List (String × Json) → List (String × Json) → Bool
  | [], [] => true
  | (k, a) :: as, (l, b) :: bs => k = l && same a b && sameMembers as bs
  | _, _ => false

end

mutual

theorem same_iff : (a b : Json) → (same a b = true ↔ a = b)
  | array as, b => by cases b <;> simp [same, sameItems_iff as]
  | object as, b => by cases b <;> simp [same, sameMembers_iff as]
  | null, b => by cases b <;> simp [same]
  | bool _, b => by cases b <;> simp [same]
  | int _, b => by cases b <;> simp [same]
  | double _, b => by cases b <;> simp [same]
  | text _, b => by cases b <;> simp [same]

theorem sameItems_iff : (as bs : List Json) → (sameItems as bs = true ↔ as = bs)
  | [], bs => by cases bs <;> simp [sameItems]
  | a :: as, bs => by cases bs <;> simp [sameItems, same_iff a, sameItems_iff as]

theorem sameMembers_iff :
    (as bs : List (String × Json)) → (sameMembers as bs = true ↔ as = bs)
  | [], bs => by cases bs <;> simp [sameMembers]
  | (k, a) :: as, bs => by
    rcases bs with _ | ⟨⟨l, b⟩, bs⟩
    · simp [sameMembers]
    · simp [sameMembers, same_iff a, sameMembers_iff as, and_assoc]

end

instance : DecidableEq Json := fun a b =>
  decidable_of_iff _ (same_iff a b)

/-! ## Making values -/

/-- An object with the given members; of members with one name the last counts. -/
def ofMembers (members : List (String × Json)) : Json :=
  object (Fields.ofList members)

/-- An object of texts. -/
def ofTexts (texts : Fields String) : Json :=
  object (texts.map fun (key, value) => (key, text value))

/-- An object with a single member along a path, and the value at its end. -/
def nest (path : List String) (value : Json) : Json :=
  path.foldr (fun key inner => object [(key, inner)]) value

/-! ## Looking into values -/

/-- The member of an object. -/
def member? : Json → String → Option Json
  | object members, key => Fields.get? members key
  | _, _ => none

/-- Whether the value is an object. -/
def isObject : Json → Bool
  | object _ => true
  | _ => false

/-- Whether the value is `null`. -/
def isNull : Json → Bool
  | null => true
  | _ => false

/-- The text of a text value. -/
def text? : Json → Option String
  | text value => some value
  | _ => none

/-- The truth value of a Boolean. -/
def bool? : Json → Option Bool
  | bool value => some value
  | _ => none

/-- The value at the end of a path of member names. -/
def at? (value : Json) : List String → Option Json
  | [] => some value
  | key :: path => (value.member? key).bind fun inner => inner.at? path

/-- The text at a path. -/
def textAt? (value : Json) (path : List String) : Option String :=
  (value.at? path).bind text?

/-- The text at a path, when it is not empty. -/
def nonEmptyTextAt? (value : Json) (path : List String) : Option String :=
  (value.textAt? path).filter (· ≠ "")

/-- The truth value at a path. -/
def boolAt? (value : Json) (path : List String) : Option Bool :=
  (value.at? path).bind bool?

/-- The items of the array at a path; none when there is no array. -/
def itemsAt (value : Json) (path : List String) : List Json :=
  match value.at? path with
  | some (array items) => items
  | _ => []

/-- The members of the object at a path that are texts, such as labels and annotations. -/
def textsAt (value : Json) (path : List String) : Fields String :=
  match value.at? path with
  | some (object members) =>
    members.filterMap fun (key, member) => member.text?.map fun text => (key, text)
  | _ => []

end Json

end VmProvisioning
