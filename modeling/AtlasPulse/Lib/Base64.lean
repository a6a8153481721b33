import Mathlib

/-!
# Base64

The standard alphabet with padding. Every byte string has one canonical text,
which decodes to it.
-/

namespace Base64

def alphabet : List Char := "ABCDEFGHIJKLMNOPQRSTUVWXYZabcdefghijklmnopqrstuvwxyz0123456789+/".toList

def sextet (n : Nat) : Char := alphabet.getD n '='

def value? (c : Char) : Option Nat := alphabet.findIdx? fun d => d = c

theorem value_sextet : ∀ n < 64, value? (sextet n) = some n := by decide +kernel

theorem sextet_ne_pad : ∀ n < 64, sextet n ≠ '=' := by decide +kernel

def encode : List UInt8 → List Char
  | [] => []
  | [a] => [sextet (a.toNat / 4), sextet (a.toNat % 4 * 16), '=', '=']
  | [a, b] => [sextet (a.toNat / 4), sextet (a.toNat % 4 * 16 + b.toNat / 16), sextet (b.toNat % 16 * 4), '=']
  | a :: b :: c :: bytes =>
    sextet (a.toNat / 4) :: sextet (a.toNat % 4 * 16 + b.toNat / 16) :: sextet (b.toNat % 16 * 4 + c.toNat / 64) ::
      sextet (c.toNat % 64) :: encode bytes

/-- Groups of four characters; only the last one is padded. -/
def decode? : List Char → Option (List UInt8)
  | [] => some []
  | c₁ :: c₂ :: c₃ :: c₄ :: text => do
    let w ← value? c₁
    let x ← value? c₂
    if c₄ = '=' ∧ text = [] then
      if c₃ = '=' then some [.ofNat (w * 4 + x / 16)]
      else do
        let y ← value? c₃
        some [.ofNat (w * 4 + x / 16), .ofNat (x % 16 * 16 + y / 4)]
    else do
      let y ← value? c₃
      let z ← value? c₄
      let bytes ← decode? text
      some (.ofNat (w * 4 + x / 16) :: .ofNat (x % 16 * 16 + y / 4) :: .ofNat (y % 4 * 64 + z) :: bytes)
  | _ => none

theorem ofNat_eq {a : UInt8} {n : Nat} (h : n = a.toNat) : UInt8.ofNat n = a := by rw [h, UInt8.ofNat_toNat]

/-- **Round trip.** -/
theorem decode_encode (bytes : List UInt8) : decode? (encode bytes) = some bytes := by
  induction bytes using encode.induct with
  | case1 => rfl
  | case2 a =>
    have ha := a.toNat_lt
    have hw := value_sextet (a.toNat / 4) (by omega)
    have hx := value_sextet (a.toNat % 4 * 16) (by omega)
    have h1 : UInt8.ofNat (a.toNat / 4 * 4 + a.toNat % 4 * 16 / 16) = a := ofNat_eq (by omega)
    simp only [encode, decode?, hw, hx, bind, Option.bind, and_self, if_true, h1]
  | case3 a b =>
    have ha := a.toNat_lt
    have hb := b.toNat_lt
    have hw := value_sextet (a.toNat / 4) (by omega)
    have hx := value_sextet (a.toNat % 4 * 16 + b.toNat / 16) (by omega)
    have hy := value_sextet (b.toNat % 16 * 4) (by omega)
    have hpad := sextet_ne_pad (b.toNat % 16 * 4) (by omega)
    have h1 : UInt8.ofNat (a.toNat / 4 * 4 + (a.toNat % 4 * 16 + b.toNat / 16) / 16) = a := ofNat_eq (by omega)
    have h2 : UInt8.ofNat ((a.toNat % 4 * 16 + b.toNat / 16) % 16 * 16 + b.toNat % 16 * 4 / 4) = b :=
      ofNat_eq (by omega)
    simp only [encode, decode?, hw, hx, hy, hpad, bind, Option.bind, and_self, if_true, if_false, h1, h2]
  | case4 a b c bytes ih =>
    have ha := a.toNat_lt
    have hb := b.toNat_lt
    have hc := c.toNat_lt
    have hw := value_sextet (a.toNat / 4) (by omega)
    have hx := value_sextet (a.toNat % 4 * 16 + b.toNat / 16) (by omega)
    have hy := value_sextet (b.toNat % 16 * 4 + c.toNat / 64) (by omega)
    have hz := value_sextet (c.toNat % 64) (by omega)
    have hpad := sextet_ne_pad (c.toNat % 64) (by omega)
    have h1 : UInt8.ofNat (a.toNat / 4 * 4 + (a.toNat % 4 * 16 + b.toNat / 16) / 16) = a := ofNat_eq (by omega)
    have h2 : UInt8.ofNat ((a.toNat % 4 * 16 + b.toNat / 16) % 16 * 16 + (b.toNat % 16 * 4 + c.toNat / 64) / 4) = b :=
      ofNat_eq (by omega)
    have h3 : UInt8.ofNat ((b.toNat % 16 * 4 + c.toNat / 64) % 4 * 64 + c.toNat % 64) = c := ofNat_eq (by omega)
    simp only [encode, decode?, hw, hx, hy, hz, hpad, ih, bind, Option.bind, false_and, if_false, h1, h2, h3]

theorem encode_injective : Function.Injective encode := by
  intro a b h
  have hdecode := congrArg decode? h
  rw [decode_encode, decode_encode] at hdecode
  exact Option.some.inj hdecode

example : String.ofList (encode [102, 111, 111, 98]) = "Zm9vYg==" := by decide +kernel

end Base64
