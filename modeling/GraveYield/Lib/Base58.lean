import GraveYield.Lib.Word

/-!
# Base58 text

The text of a byte string read as a big-endian number : a `1` for each leading zero byte, then
the digits in base 58. Byte strings of one length have distinct texts (`encode_inj`).
-/

namespace Base58

open Machine

/-- The digits, without those that look alike. -/
def alphabet : List Char :=
  "123456789ABCDEFGHJKLMNPQRSTUVWXYZabcdefghijkmnopqrstuvwxyz".toList

/-- The character of a digit below 58. -/
def char (d : ℕ) : Char :=
  alphabet.getD d '1'

/-- The digits of the text, the most significant one first. -/
def digits (bs : List Byte) : List ℕ :=
  List.replicate (bs.takeWhile (· = 0)).length 0 ++ (Nat.digits 58 (ofLeBytes bs.reverse)).reverse

/-- The text of a byte string. -/
def encode (bs : List Byte) : String :=
  String.ofList ((digits bs).map char)

/-- Digits are determined by their characters. -/
theorem char_inj : ∀ c < 58, ∀ d < 58, char c = char d → c = d := by
  decide +kernel

/-- The digits are below the base. -/
theorem lt_of_mem_digits {bs : List Byte} {d : ℕ} (h : d ∈ digits bs) : d < 58 := by
  rcases List.mem_append.1 h with hz | hd
  · rw [(List.mem_replicate.1 hz).2]
    decide
  · exact Nat.digits_lt_base (by decide) (List.mem_reverse.1 hd)

/-- The leading zeros do not change the number. -/
theorem ofDigits_digits (bs : List Byte) :
    Nat.ofDigits 58 (digits bs).reverse = ofLeBytes bs.reverse := by
  rw [digits, List.reverse_append, List.reverse_reverse, List.reverse_replicate,
    Nat.ofDigits_append_replicate_zero, Nat.ofDigits_digits]

/-- Lists of digits are determined by their characters. -/
theorem map_char_inj {ds es : List ℕ} (hd : ∀ d ∈ ds, d < 58) (he : ∀ e ∈ es, e < 58)
    (h : ds.map char = es.map char) : ds = es := by
  induction ds generalizing es with
  | nil => exact (List.map_eq_nil_iff.1 h.symm).symm
  | cons d ds ih =>
    obtain _ | ⟨e, es⟩ := es
    · cases h
    · obtain ⟨hhead, htail⟩ := List.cons.inj h
      rw [char_inj d (hd d List.mem_cons_self) e (he e List.mem_cons_self) hhead,
        ih (fun x hx => hd x (List.mem_cons_of_mem d hx))
          (fun x hx => he x (List.mem_cons_of_mem e hx)) htail]

/-- Byte strings of one length are determined by their texts. -/
theorem encode_inj {as bs : List Byte} (hlength : as.length = bs.length)
    (h : encode as = encode bs) : as = bs := by
  have hdigits : digits as = digits bs :=
    map_char_inj (fun _ => lt_of_mem_digits) (fun _ => lt_of_mem_digits) (String.ofList_inj.1 h)
  have hnumber : ofLeBytes as.reverse = ofLeBytes bs.reverse := by
    rw [← ofDigits_digits as, ← ofDigits_digits bs, hdigits]
  exact List.reverse_injective (ofLeBytes_inj (by simpa using hlength) hnumber)

end Base58
