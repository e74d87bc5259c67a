import Mathlib.Data.List.Lex
import Mathlib.Order.RelClasses
import Wethands.Foundation.OrderedMap
import Wethands.Foundation.Outcome
import Wethands.Net.Buffer
import Wethands.Utils.Timestamp

/-!
# Requests

A `std::string` is the list of its bytes.
-/

namespace Wethands
namespace Net

open Foundation Utils

def Ascii (text : String) : List Byte :=
  text.toList.map (fun c => UInt8.ofNat c.toNat)

/-- `operator<` of `std::string`: bytes compare without a sign. -/
def StringLess (a b : List Byte) : Prop :=
  a.map UInt8.toNat < b.map UInt8.toNat

instance : DecidableRel StringLess := fun a b =>
  inferInstanceAs (Decidable (a.map UInt8.toNat < b.map UInt8.toNat))

instance : IsStrictWeakOrder (List Byte) StringLess where
  irrefl a := lt_irrefl (a.map UInt8.toNat)
  trans _ _ _ := lt_trans
  incomp_trans _ _ _ hab hbc := by
    have h1 := le_antisymm (not_lt.mp hab.2) (not_lt.mp hab.1)
    have h2 := le_antisymm (not_lt.mp hbc.2) (not_lt.mp hbc.1)
    rw [StringLess, StringLess, h1, h2]
    exact ⟨lt_irrefl _, lt_irrefl _⟩

theorem equivalent_stringLess {a b : List Byte} :
    OrderedSet.Equivalent StringLess a b <-> a = b := by
  constructor
  · intro h
    have hnats : a.map UInt8.toNat = b.map UInt8.toNat :=
      le_antisymm (not_lt.mp h.2) (not_lt.mp h.1)
    exact List.map_injective_iff.mpr (fun _ _ => UInt8.toNat_inj.mp) hnats
  · rintro rfl
    exact ⟨irrefl_of StringLess a, irrefl_of StringLess a⟩

namespace HttpRequest

inductive Method where
  | kInvalid
  | kGet
  | kPost
  | kHead
  | kPut
  | kDelete
deriving DecidableEq

inductive Version where
  | kUnknown
  | kHttp10
  | kHttp11
deriving DecidableEq

def MethodNames : Method -> List Byte
  | Method.kInvalid => Ascii "INVALID"
  | Method.kGet => Ascii "GET"
  | Method.kPost => Ascii "POST"
  | Method.kHead => Ascii "HEAD"
  | Method.kPut => Ascii "PUT"
  | Method.kDelete => Ascii "DELETE"

def VersionNames : Version -> List Byte
  | Version.kUnknown => Ascii "UNKNOWN"
  | Version.kHttp10 => Ascii "HTTP/1.0"
  | Version.kHttp11 => Ascii "HTTP/1.1"

/-- The methods from number one on, as the loop of `SetMethod` goes. -/
def Methods : List Method :=
  [Method.kGet, Method.kPost, Method.kHead, Method.kPut, Method.kDelete]

def Versions : List Version := [Version.kHttp10, Version.kHttp11]

end HttpRequest

open HttpRequest

structure HttpRequest where
  method_ : Method
  version_ : Version
  path_ : List Byte
  query_ : List Byte
  body_ : List Byte
  receiveTime_ : Timestamp
  headers_ : OrderedMap (List Byte) StringLess

namespace HttpRequest

def New : HttpRequest where
  method_ := Method.kInvalid
  version_ := Version.kUnknown
  path_ := []
  query_ := []
  body_ := []
  receiveTime_ := 0
  headers_ := OrderedSet.Empty _

/-- The answer tells that no version was found. -/
def SetVersion (request : HttpRequest) (v : List Byte) :
    Outcome (Bool × HttpRequest) :=
  if request.version_ = Version.kUnknown then
    let version :=
      match Versions.find? (fun version => v = VersionNames version) with
      | some version => version
      | none => request.version_
    Except.ok (version = Version.kUnknown, { request with version_ := version })
  else Except.error Failure.assertion

/-- The answer tells that a method was found. -/
def SetMethod (request : HttpRequest) (m : List Byte) :
    Outcome (Bool × HttpRequest) :=
  if request.method_ = Method.kInvalid then
    let method :=
      match Methods.find? (fun method => m = MethodNames method) with
      | some method => method
      | none => request.method_
    Except.ok (method ≠ Method.kInvalid, { request with method_ := method })
  else Except.error Failure.assertion

def SetPath (request : HttpRequest) (p : List Byte) : HttpRequest :=
  { request with path_ := p }

def SetQuery (request : HttpRequest) (q : List Byte) : HttpRequest :=
  { request with query_ := q }

def SetBody (request : HttpRequest) (b : List Byte) : HttpRequest :=
  { request with body_ := b }

def SetReceiveTime (request : HttpRequest) (t : Timestamp) : HttpRequest :=
  { request with receiveTime_ := t }

def AddHeader (request : HttpRequest) (key value : List Byte) : HttpRequest :=
  { request with headers_ := OrderedMap.Assign request.headers_ key value }

/-- A field that is not there has the empty value. -/
def GetHeader (request : HttpRequest) (field : List Byte) : List Byte :=
  match OrderedMap.Lookup request.headers_ field with
  | none => []
  | some value => value

end HttpRequest
end Net
end Wethands
