import Mathlib.Data.List.Basic

/-! Base64 texts of bytes, with padding. -/

namespace Reproof.Library.Base64

def alphabet : List Char :=
  "ABCDEFGHIJKLMNOPQRSTUVWXYZabcdefghijklmnopqrstuvwxyz0123456789+/".toList

def symbol (n : Nat) : Char := alphabet.getD n '='

def encode : List UInt8 → List Char
  | [] => []
  | [a] => [symbol (a.toNat / 4), symbol (a.toNat % 4 * 16), '=', '=']
  | [a, b] =>
    [symbol (a.toNat / 4), symbol (a.toNat % 4 * 16 + b.toNat / 16), symbol (b.toNat % 16 * 4), '=']
  | a :: b :: c :: rest =>
    symbol (a.toNat / 4) :: symbol (a.toNat % 4 * 16 + b.toNat / 16) ::
      symbol (b.toNat % 16 * 4 + c.toNat / 64) :: symbol (c.toNat % 64) :: encode rest

def value (c : Char) : Option Nat := alphabet.findIdx? (· = c)

/-- `b64decode(text, validate=True)`; padding stands at the end only. -/
def decode : List Char → Option (List UInt8)
  | [] => some []
  | [a, b, '=', '='] => do
    let a ← value a
    let b ← value b
    some [.ofNat (a * 4 + b / 16)]
  | [a, b, c, '='] => do
    let a ← value a
    let b ← value b
    let c ← value c
    some [.ofNat (a * 4 + b / 16), .ofNat (b % 16 * 16 + c / 4)]
  | a :: b :: c :: d :: rest => do
    let a ← value a
    let b ← value b
    let c ← value c
    let d ← value d
    let bytes ← decode rest
    some (.ofNat (a * 4 + b / 16) :: .ofNat (b % 16 * 16 + c / 4) :: .ofNat (c % 4 * 64 + d) :: bytes)
  | _ => none

theorem value_symbol : ∀ n < 64, value (symbol n) = some n := by
  simp only [value, symbol, show alphabet = _ from String.toList_ofList]
  decide +kernel

theorem symbol_ne_pad : ∀ n < 64, symbol n ≠ '=' := by
  simp only [symbol, show alphabet = _ from String.toList_ofList]
  decide +kernel

theorem length_encode (bytes : List UInt8) :
    (encode bytes).length = 4 * ((bytes.length + 2) / 3) := by
  induction bytes using encode.induct with
  | case1 => rfl
  | case2 => simp [encode]
  | case3 => simp [encode]
  | case4 a b c rest ih =>
    simp only [encode, List.length_cons, ih]
    omega

theorem decode_encode (bytes : List UInt8) : decode (encode bytes) = some bytes := by
  induction bytes using encode.induct with
  | case1 => rfl
  | case2 a =>
    have small := a.toNat_lt
    rw [encode, decode, value_symbol _ (by omega), value_symbol _ (by omega)]
    have same : a.toNat / 4 * 4 + a.toNat % 4 * 16 / 16 = a.toNat := by omega
    simp only [Option.bind_eq_bind, Option.bind_some, same, UInt8.ofNat_toNat]
  | case3 a b =>
    have first := a.toNat_lt
    have second := b.toNat_lt
    rw [encode, decode, value_symbol _ (by omega), value_symbol _ (by omega),
      value_symbol _ (by omega)]
    · have high : a.toNat / 4 * 4 + (a.toNat % 4 * 16 + b.toNat / 16) / 16 = a.toNat := by omega
      have low : (a.toNat % 4 * 16 + b.toNat / 16) % 16 * 16 + b.toNat % 16 * 4 / 4 = b.toNat := by
        omega
      simp only [Option.bind_eq_bind, Option.bind_some, high, low, UInt8.ofNat_toNat]
    · exact symbol_ne_pad _ (by omega)
  | case4 a b c rest ih =>
    have first := a.toNat_lt
    have second := b.toNat_lt
    have third := c.toNat_lt
    rw [encode, decode, value_symbol _ (by omega), value_symbol _ (by omega),
      value_symbol _ (by omega), value_symbol _ (by omega), ih]
    · have high : a.toNat / 4 * 4 + (a.toNat % 4 * 16 + b.toNat / 16) / 16 = a.toNat := by omega
      have middle : (a.toNat % 4 * 16 + b.toNat / 16) % 16 * 16 +
          (b.toNat % 16 * 4 + c.toNat / 64) / 4 = b.toNat := by omega
      have low : (b.toNat % 16 * 4 + c.toNat / 64) % 4 * 64 + c.toNat % 64 = c.toNat := by omega
      simp only [Option.bind_eq_bind, Option.bind_some, high, middle, low, UInt8.ofNat_toNat]
    · exact fun _ pad _ => symbol_ne_pad _ (by omega) pad
    · exact fun pad _ => symbol_ne_pad _ (by omega) pad

end Reproof.Library.Base64
