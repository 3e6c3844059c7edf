import PageFlow.Json.Decode
import PageFlow.Text.Hex

/-! Identifiers of 128 bits. They are written as five groups of lowercase hexadecimal digits and
read in that form, without hyphens, in braces or after `urn:uuid:`, in either case. -/
namespace PageFlow

structure Uuid where
  value : Nat
  value_lt : value < 2 ^ 128
deriving DecidableEq, Repr

namespace Uuid

def ofNat (n : Nat) : Uuid := ⟨n % 2 ^ 128, Nat.mod_lt _ (by decide)⟩
instance : Inhabited Uuid := ⟨ofNat 0⟩

def hexDigits : Nat → Nat → List Char
  | 0, _ => []
  | n + 1, v => hexDigits n (v / 16) ++ [Hex.digit (v % 16)]

def digits (u : Uuid) : List Char := hexDigits 32 u.value

def text (u : Uuid) : String :=
  let ds := u.digits
  String.ofList (ds.take 8 ++ '-' :: (ds.drop 8).take 4 ++ '-' :: (ds.drop 12).take 4 ++
    '-' :: (ds.drop 16).take 4 ++ '-' :: ds.drop 20)

def ofDigits? (cs : List Char) : Option Uuid :=
  if cs.length = 32 then
    (cs.mapM Hex.value?).map fun ds => ofNat (ds.foldl (fun n d => n * 16 + d) 0)
  else none

def ungrouped? (cs : List Char) : Option (List Char) :=
  if cs.length = 36 ∧ cs[8]? = some '-' ∧ cs[13]? = some '-' ∧ cs[18]? = some '-' ∧
      cs[23]? = some '-' then
    some (cs.take 8 ++ (cs.drop 9).take 4 ++ (cs.drop 14).take 4 ++ (cs.drop 19).take 4 ++
      cs.drop 24)
  else none

def urn : List Char := ['u', 'r', 'n', ':', 'u', 'u', 'i', 'd', ':']

def ofText? (s : String) : Option Uuid :=
  let cs := s.toList
  if cs.length = 32 then ofDigits? cs
  else if cs.length = 36 then (ungrouped? cs).bind ofDigits?
  else if cs.length = 38 ∧ cs.head? = some '\x7b' ∧ cs.getLast? = some '\x7d' then
    (ungrouped? (cs.drop 1).dropLast).bind ofDigits?
  else if cs.take 9 = urn then (ungrouped? (cs.drop 9)).bind ofDigits?
  else none

def read (d : Json.Doc) : Json.Read Uuid :=
  match d.shape with
  | .malformed => .error .malformed
  | .str s => match ofText? s with
    | some u => .ok u
    | none => .error .badStamp
  | _ => .error .badStamp

end Uuid
end PageFlow
