import Mathlib.Data.List.TakeWhile
import NodeRdkafka.Lib.Double

namespace NodeRdkafka

/-- What a C string keeps of a text: the part before the first NUL. -/
def cString (text : String) : String := String.ofList (text.toList.takeWhile (· ≠ '\x00'))

theorem cString_eq_iff {text : String} : cString text = text ↔ '\x00' ∉ text.toList := by
  have whole : cString text = text ↔ text.toList.takeWhile (· ≠ '\x00') = text.toList := by
    constructor
    · intro same
      have lists := congrArg String.toList same
      rwa [cString, String.toList_ofList] at lists
    · intro same
      rw [cString, same, String.ofList_toList]
  rw [whole, List.takeWhile_eq_self_iff]
  constructor
  · intro kept member
    simpa using kept '\x00' member
  · intro absent c member
    have different : c ≠ '\x00' := fun same => absent (same ▸ member)
    simp [different]

theorem cString_idem (text : String) : cString (cString text) = cString text := by
  simp only [cString, String.toList_ofList, List.takeWhile_idem]

/-- A JavaScript value as native code and the library inspect it. Strings
are well formed; functions are told apart by identity only. -/
inductive JsValue
  | undefined
  | null
  | boolean (value : Bool)
  | number (value : Number)
  | string (value : String)
  | buffer (bytes : List UInt8)
  | symbol (description : String)
  | function (identity : Nat)
  | error (message : String) (fields : List (String × JsValue))
  | array (elements : List JsValue)
  | object (fields : List (String × JsValue))

namespace JsValue

def isObject : JsValue → Bool
  | buffer _ | function _ | error .. | array _ | object _ => true
  | _ => false

def isUndefined : JsValue → Bool
  | undefined => true
  | _ => false

@[simp] theorem isUndefined_iff {value : JsValue} : value.isUndefined = true ↔ value = undefined := by
  cases value <;> simp [isUndefined]

def isNull : JsValue → Bool
  | null => true
  | _ => false

def isString : JsValue → Bool
  | string _ => true
  | _ => false

def isFunction : JsValue → Bool
  | function _ => true
  | _ => false

def isBuffer : JsValue → Bool
  | buffer _ => true
  | _ => false

/-- Property lookup; arrays, buffers and functions carry none of the
properties that native code asks for. -/
def get? : JsValue → String → Option JsValue
  | object fields, name => fields.lookup name
  | error message fields, name =>
    if name = "message" then some (string message) else fields.lookup name
  | _, _ => none

/-- The names of the own properties of a plain object or an error. -/
def ownNames : JsValue → List String
  | object fields | error _ fields => fields.map Prod.fst
  | _ => []

/-- A property read in JavaScript. -/
def get (value : JsValue) (name : String) : JsValue := (value.get? name).getD undefined

end JsValue
end NodeRdkafka
