import AtlasPulse.Lib.Datetime
import AtlasPulse.Lib.Json
import AtlasPulse.Validation

/-!
# Canonical identities

`identity.py`: canonical JSON as bytes, and its SHA-256 as lower-case
hexadecimal text. The hash function is a parameter.
-/

namespace AtlasPulse

open PyJson PyTime

abbrev Bytes := List UInt8

/-- `text.encode()`. -/
def encodeUtf8 (text : String) : Bytes := text.toUTF8.data.toList

theorem encodeUtf8_injective : Function.Injective encodeUtf8 := by
  intro a b h
  have hdata : a.toUTF8 = b.toUTF8 := ByteArray.ext (Array.toList_inj.mp h)
  exact String.toByteArray_inj.mp hdata

/-- A hexadecimal SHA-256 digest. -/
abbrev HexDigest := {s : String // s.toList.length = 64 ∧ s.toList.all isHex}

theorem isPrefixedHash_append (lead : String) (d : HexDigest) : isPrefixedHash lead (lead ++ d.val) := by
  have hlen : lead.length = lead.toList.length := String.length_toList.symm
  simp only [isPrefixedHash, String.toList_append, hlen, List.drop_left, d.2.1, d.2.2, decide_true, Bool.and_true]
  exact List.isPrefixOf_iff_prefix.mpr (List.prefix_append _ _)

/-- `_encode_extra`: the UTC offset of `isoformat` is written as `Z`. -/
def encodeExtra (value : UtcDatetime) : Json := .str (value.val.naive.isoformat ++ "Z")

theorem encodeExtra_injective {a b : UtcDatetime} (h : encodeExtra a = encodeExtra b) : a = b := by
  have htext := congrArg String.toList (Json.str.inj h)
  rw [String.toList_append, String.toList_append] at htext
  refine isoformat_injective ?_
  rw [isoformat_utc, isoformat_utc, String.toList_inj.mp (List.append_cancel_right htext)]

def canonicalJsonBytes (value : Json) : Bytes := encodeUtf8 (dumps false value)

def canonicalJsonSha256 (sha256 : Bytes → HexDigest) (value : Json) : String := (sha256 (canonicalJsonBytes value)).val

theorem canonicalJsonBytes_inj {a b : Json} (h : canonicalJsonBytes a = canonicalJsonBytes b) :
    sortKeys a = sortKeys b :=
  dumps_inj (encodeUtf8_injective h)

theorem encodeUtf8_cons (c : Char) (l : List Char) :
    encodeUtf8 (String.ofList (c :: l)) = String.utf8EncodeChar c ++ encodeUtf8 (String.ofList l) := by
  simp [encodeUtf8, List.utf8Encode]

/-- Values that differ in a member have different bytes. -/
theorem canonicalJsonBytes_ne {a b : Json} (key : String)
    (h : (member key a).map sortKeys ≠ (member key b).map sortKeys) : canonicalJsonBytes a ≠ canonicalJsonBytes b :=
  fun heq => h (member_of_dumps_eq (encodeUtf8_injective heq) key)

/-- The bytes of an object begin with a brace. -/
theorem head_canonicalJsonBytes (members : List (String × Json)) :
    (canonicalJsonBytes (.obj members)).head? = some 0x7b := by
  rw [canonicalJsonBytes, dumps, sortKeys, write, encodeUtf8_cons]
  rfl

/-! ## Artifacts -/

/-- `^[0-9a-f]{64}$`. -/
def matchesSha256 (digest : String) : Bool := digest.toList.length = 64 && digest.toList.all isHex

theorem matchesSha256_val (d : HexDigest) : matchesSha256 d.val = true := by
  rw [matchesSha256, Bool.and_eq_true, decide_eq_true_eq]
  exact d.2

/-- `canonical_sha256` of `evaluation/metrics.py`, of a dumped value. -/
def canonicalSha256 (sha256 : String → HexDigest) (value : Json) : String := (sha256 (dumps true value)).val

end AtlasPulse
