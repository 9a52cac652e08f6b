import Mathlib.Data.List.DropRight
import Mathlib.Tactic
import SheetInspector.Xml.Event

set_option autoImplicit false

/-! # What the bytes of a text say

The bytes of a text are decoded character by character, and then its references are replaced one
after the other, both from the left. `Utf8.Decodes` and `Entity.Replaced` say what comes out without
saying where in the text a fault would be reported, so a text whose pieces can be read can be
read as a whole, and says what its pieces say one behind the other (`unescape_append`). Every text
without an ampersand can be written as the bytes of its characters (`unescape_encode`).
-/

namespace SheetInspector

namespace Utf8

/-! ## Characters -/

/-- Bytes and the characters that they are. -/
inductive Decodes : Bytes → List Char → Prop
  | nil : Decodes [] []
  | cons {b : UInt8} {l : Lead} {rest after : Bytes} {code : Nat} {s : List Char}
      (hlead : lead? b.toNat = some l)
      (hfollow : follow l.value 1 l.low l.high l.following rest = .ok (code, after))
      (hs : Decodes after s) : Decodes (b :: rest) (Char.ofNat code :: s)

theorem Decodes.decodeFrom {s : Bytes} {t : List Char} (h : Decodes s t) (done : List Char)
    (index : Nat) : Utf8.decodeFrom done index s = .ok (done.reverse ++ t) := by
  induction h generalizing done index with
  | nil => rw [Utf8.decodeFrom, List.append_nil]
  | @cons b l rest after code s hlead hfollow _ ih =>
      rw [Utf8.decodeFrom, hlead]
      dsimp only
      split
      · rename_i hfault
        cases hfollow.symm.trans hfault
      · rename_i hfault
        cases hfollow.symm.trans hfault
      · rename_i hok
        cases hfollow.symm.trans hok
        rw [ih, List.reverse_cons, List.append_assoc, List.singleton_append]

theorem decodes_of_decodeFrom {done : List Char} {index : Nat} {s : Bytes} {t : List Char}
    (h : decodeFrom done index s = .ok t) : ∃ u, Decodes s u ∧ t = done.reverse ++ u := by
  fun_induction decodeFrom done index s with
  | case1 done index =>
      cases h
      exact ⟨[], .nil, (List.append_nil _).symm⟩
  | case2 => cases h
  | case3 => cases h
  | case4 => cases h
  | case5 done index b rest l hlead code after hfollow _ ih =>
      obtain ⟨u, hu, rfl⟩ := ih h
      exact ⟨Char.ofNat code :: u, .cons hlead hfollow hu, by simp⟩

/-- **Decoding bytes is reading their characters from the left.** -/
theorem decode_eq_ok_iff {s : Bytes} {t : List Char} : decode s = .ok t ↔ Decodes s t := by
  constructor
  · intro h
    obtain ⟨u, hu, rfl⟩ := decodes_of_decodeFrom h
    exact hu
  · intro h
    exact h.decodeFrom [] 0

/-- A character is read no further than its last byte. -/
theorem follow_append {value seen low high n : Nat} {s rest : Bytes} {code : Nat}
    (h : follow value seen low high n s = .ok (code, rest)) (t : Bytes) :
    follow value seen low high n (s ++ t) = .ok (code, rest ++ t) := by
  induction n generalizing value seen low high s with
  | zero =>
      cases h
      rfl
  | succ n ih =>
      cases s with
      | nil => cases h
      | cons b s =>
          rw [follow] at h
          rw [List.cons_append, follow]
          by_cases hb : low ≤ b.toNat ∧ b.toNat ≤ high
          · rw [if_pos hb] at h ⊢
            exact ih h
          · rw [if_neg hb] at h
            cases h

theorem Decodes.append {s t : Bytes} {u v : List Char} (hs : Decodes s u) (ht : Decodes t v) :
    Decodes (s ++ t) (u ++ v) := by
  induction hs with
  | nil => exact ht
  | cons hlead hfollow _ ih => exact .cons hlead (follow_append hfollow t) ih

/-- The bytes of a text. -/
def encode (s : List Char) : Bytes := s.flatMap String.utf8EncodeChar

theorem encode_cons (c : Char) (s : List Char) :
    encode (c :: s) = String.utf8EncodeChar c ++ encode s := List.flatMap_cons

/-- The next byte of a character adds its six bits. -/
theorem follow_cons {value seen low high n x : Nat} (hlow : low ≤ x) (hhigh : x ≤ high)
    (hbyte : x < 256) (rest : Bytes) :
    follow value seen low high (n + 1) (UInt8.ofNat x :: rest)
      = follow (value * 64 + x % 64) (seen + 1) 0x80 0xBF n rest := by
  have hx : (UInt8.ofNat x).toNat = x := UInt8.toNat_ofNat_of_lt' hbyte
  rw [follow, hx, if_pos ⟨hlow, hhigh⟩]

/-- **A character is decoded from its bytes**, of which there are one to four. -/
theorem decodes_encodeChar (c : Char) {rest : Bytes} {s : List Char} (h : Decodes rest s) :
    Decodes (String.utf8EncodeChar c ++ rest) (c :: s) := by
  have hvalid : c.val.toNat < 0xD800 ∨ 0xDFFF < c.val.toNat ∧ c.val.toNat < 0x110000 := c.valid
  have hcons {x value following low high : Nat} {tail : Bytes} (hbyte : x < 256)
      (hlead : lead? x = some ⟨value, following, low, high⟩)
      (hfollow : follow value 1 low high following (tail ++ rest) = .ok (c.val.toNat, rest)) :
      Decodes (UInt8.ofNat x :: tail ++ rest) (c :: s) := by
    have hx : (UInt8.ofNat x).toNat = x := UInt8.toNat_ofNat_of_lt' hbyte
    have hc : Char.ofNat c.val.toNat = c := Char.ofNat_toNat c
    rw [← hc]
    exact .cons (by rw [hx, hlead]) hfollow h
  rw [String.utf8EncodeChar]
  generalize c.val.toNat = n at hvalid hcons ⊢
  split_ifs with h₁ h₂ h₃
  · have hlead : lead? n = some ⟨n, 0, 0x80, 0xBF⟩ := by
      rw [lead?, if_pos (by omega)]
    exact hcons (by omega) hlead rfl
  · have hvalue : n / 64 % 32 + 192 - 0xC0 = n / 64 := by omega
    have hlead : lead? (n / 64 % 32 + 192) = some ⟨n / 64, 1, 0x80, 0xBF⟩ := by
      rw [lead?, if_neg (by omega), if_neg (by omega), if_pos (by omega), hvalue]
    have hcode : n / 64 * 64 + (n % 64 + 128) % 64 = n := by omega
    refine hcons (by omega) hlead ?_
    rw [List.singleton_append, follow_cons (by omega) (by omega) (by omega), follow, hcode]
  · -- the first byte decides which second bytes there can be
    have hfirst : ∃ low high, lead? (n / 4096 % 16 + 224) = some ⟨n / 4096, 2, low, high⟩ ∧
        low ≤ n / 64 % 64 + 128 ∧ n / 64 % 64 + 128 ≤ high := by
      have hvalue : n / 4096 % 16 + 224 - 0xE0 = n / 4096 := by omega
      rw [lead?, if_neg (by omega), if_neg (by omega), if_neg (by omega), hvalue]
      split_ifs with h₄ h₅
      · have hzero : n / 4096 = 0 := by omega
        exact ⟨0xA0, 0xBF, by rw [hzero], by omega, by omega⟩
      · have hthirteen : n / 4096 = 0xD := by omega
        exact ⟨0x80, 0x9F, by rw [hthirteen], by omega, by omega⟩
      · exact ⟨0x80, 0xBF, rfl, by omega, by omega⟩
      all_goals omega
    obtain ⟨low, high, hlead, hlow, hhigh⟩ := hfirst
    have hcode : (n / 4096 * 64 + (n / 64 % 64 + 128) % 64) * 64 + (n % 64 + 128) % 64 = n := by
      omega
    refine hcons (by omega) hlead ?_
    rw [List.cons_append, follow_cons hlow hhigh (by omega), List.singleton_append,
      follow_cons (by omega) (by omega) (by omega), follow, hcode]
  · have hfirst : ∃ low high, lead? (n / 262144 % 8 + 240) = some ⟨n / 262144, 3, low, high⟩ ∧
        low ≤ n / 4096 % 64 + 128 ∧ n / 4096 % 64 + 128 ≤ high := by
      have hvalue : n / 262144 % 8 + 240 - 0xF0 = n / 262144 := by omega
      rw [lead?, if_neg (by omega), if_neg (by omega), if_neg (by omega), if_neg (by omega),
        if_neg (by omega), if_neg (by omega), hvalue]
      split_ifs with h₄ h₅ h₆
      · have hzero : n / 262144 = 0 := by omega
        exact ⟨0x90, 0xBF, by rw [hzero], by omega, by omega⟩
      · exact ⟨0x80, 0xBF, rfl, by omega, by omega⟩
      · have hfour : n / 262144 = 4 := by omega
        exact ⟨0x80, 0x8F, by rw [hfour], by omega, by omega⟩
      all_goals omega
    obtain ⟨low, high, hlead, hlow, hhigh⟩ := hfirst
    have hcode : ((n / 262144 * 64 + (n / 4096 % 64 + 128) % 64) * 64
        + (n / 64 % 64 + 128) % 64) * 64 + (n % 64 + 128) % 64 = n := by
      omega
    refine hcons (by omega) hlead ?_
    rw [List.cons_append, follow_cons hlow hhigh (by omega), List.cons_append,
      follow_cons (by omega) (by omega) (by omega), List.singleton_append,
      follow_cons (by omega) (by omega) (by omega), follow, hcode]

/-- **Every text is decoded from its bytes.** -/
theorem decodes_encode (s : List Char) : Decodes (encode s) s := by
  induction s with
  | nil => exact .nil
  | cons c s ih =>
      rw [encode_cons]
      exact decodes_encodeChar c ih

/-- **A byte that begins with a zero is a character of its own.** -/
theorem mem_of_mem_encode {b : UInt8} (hb : b.toNat < 128) {s : List Char} (h : b ∈ encode s) :
    Char.ofNat b.toNat ∈ s := by
  obtain ⟨c, hc, hbyte⟩ := List.mem_flatMap.mp h
  have hcode : b.toNat = c.val.toNat := by
    -- all bytes of a longer character begin with a one
    have hlarge {x : Nat} (hx : x < 256) (hlow : 128 ≤ x) : b ≠ UInt8.ofNat x := by
      rintro rfl
      rw [UInt8.toNat_ofNat_of_lt' hx] at hb
      omega
    rw [String.utf8EncodeChar] at hbyte
    generalize c.val.toNat = n at hbyte ⊢
    split_ifs at hbyte with h₁ h₂ h₃
    · rw [List.mem_singleton] at hbyte
      rw [hbyte]
      exact UInt8.toNat_ofNat_of_lt' (show n < 256 by omega)
    all_goals simp only [List.mem_cons, List.not_mem_nil, or_false] at hbyte
    · rcases hbyte with hbyte | hbyte <;> exact absurd hbyte (hlarge (by omega) (by omega))
    · rcases hbyte with hbyte | hbyte | hbyte <;>
        exact absurd hbyte (hlarge (by omega) (by omega))
    · rcases hbyte with hbyte | hbyte | hbyte | hbyte <;>
        exact absurd hbyte (hlarge (by omega) (by omega))
  have hchar : Char.ofNat b.toNat = c := by
    rw [hcode]
    exact Char.ofNat_toNat c
  rwa [hchar]

end Utf8

namespace Xml

/-! ## References -/

namespace Entity

/-- What a reference stands for does not depend on where in the text it is. -/
theorem resolve_eq_ok {start stop : Nat} {name : List Char} {c : Char}
    (h : resolve start stop name = .ok c) (start' stop' : Nat) :
    resolve start' stop' name = .ok c := by
  unfold resolve at h ⊢
  split at h
  · rename_i number
    cases hcode : codePoint number with
    | error fault =>
        rw [hcode] at h
        cases h
    | ok code =>
        rw [hcode] at h
        cases code with
        | zero => cases h
        | succ code => exact h
  · cases hnamed : named? name with
    | none =>
        rw [hnamed] at h
        cases h
    | some d =>
        rw [hnamed] at h
        exact h

/-- A text and what it is with its references replaced, from the left. -/
inductive Replaced : List Char → List Char → Prop
  | nil : Replaced [] []
  | plain {c : Char} {s t : List Char} (hc : c ≠ '&') (hs : Replaced s t) :
      Replaced (c :: s) (c :: t)
  | reference {name after t : List Char} {c : Char} (hname : ∀ d ∈ name, isInside d = true)
      (hc : resolve 0 0 name = .ok c) (hafter : Replaced after t) :
      Replaced ('&' :: (name ++ ';' :: after)) (c :: t)

theorem Replaced.replaceFrom {s t : List Char} (h : Replaced s t) (total : Nat)
    (done : List Char) (index : Nat) :
    Entity.replaceFrom total done index s = .ok (done.reverse ++ t) := by
  induction h generalizing done index with
  | nil => rw [Entity.replaceFrom, List.append_nil]
  | @plain c s t hc _ ih =>
      rw [Entity.replaceFrom, if_neg hc, ih, List.reverse_cons, List.append_assoc,
        List.singleton_append]
  | @reference name after t c hname hc _ ih =>
      have htake : (name ++ ';' :: after).takeWhile isInside = name := by
        rw [List.takeWhile_append_of_pos hname]
        simp [isInside]
      have hdrop : (name ++ ';' :: after).dropWhile isInside = ';' :: after := by
        rw [List.dropWhile_append_of_pos hname]
        simp [isInside]
      rw [Entity.replaceFrom, if_pos rfl]
      split
      · rename_i after' hafter'
        rw [hdrop] at hafter'
        cases hafter'
        dsimp only
        rw [htake, resolve_eq_ok hc]
        dsimp only
        rw [ih, List.reverse_cons, List.append_assoc, List.singleton_append]
      · rename_i hnone
        exact absurd hdrop (hnone after)

theorem replaced_of_replaceFrom {total : Nat} {done : List Char} {index : Nat} {s t : List Char}
    (h : replaceFrom total done index s = .ok t) : ∃ u, Replaced s u ∧ t = done.reverse ++ u := by
  fun_induction replaceFrom total done index s with
  | case1 done index =>
      cases h
      exact ⟨[], .nil, (List.append_nil _).symm⟩
  | case2 => cases h
  | case3 done index rest after hdrop name stop _ c hresolve ih =>
      obtain ⟨u, hu, rfl⟩ := ih h
      have hrest : rest = name ++ ';' :: after := by
        rw [← hdrop]
        exact List.takeWhile_append_dropWhile.symm
      refine ⟨c :: u, ?_, by simp⟩
      rw [hrest]
      exact .reference (fun d => List.mem_takeWhile_imp) (resolve_eq_ok hresolve 0 0) hu
  | case4 => cases h
  | case5 done index c rest hc ih =>
      obtain ⟨u, hu, rfl⟩ := ih h
      exact ⟨c :: u, .plain hc hu, by simp⟩

/-- **Replacing references is reading them from the left.** -/
theorem replace_eq_ok_iff {s t : List Char} : replace s = .ok t ↔ Replaced s t := by
  constructor
  · intro h
    obtain ⟨u, hu, rfl⟩ := replaced_of_replaceFrom h
    exact hu
  · intro h
    exact h.replaceFrom (byteLength s) [] 0

theorem Replaced.append {s t u v : List Char} (hs : Replaced s u) (ht : Replaced t v) :
    Replaced (s ++ t) (u ++ v) := by
  induction hs with
  | nil => exact ht
  | plain hc _ ih => exact .plain hc ih
  | reference hname hc _ ih =>
      rw [List.cons_append, List.append_assoc, List.cons_append]
      exact .reference hname hc ih

/-- A text without an ampersand has no references. -/
theorem replaced_self {s : List Char} (h : '&' ∉ s) : Replaced s s := by
  induction s with
  | nil => exact .nil
  | cons c s ih =>
      obtain ⟨hc, hs⟩ := not_or.mp (mt List.mem_cons.mpr h)
      exact .plain (Ne.symm hc) (ih hs)

end Entity

/-! ## Texts -/

/-- **What bytes say as a text.** -/
theorem unescape_eq_ok_iff {raw : Bytes} {text : String} :
    unescape raw = .ok text ↔ ∃ s, Utf8.Decodes raw s ∧ Entity.Replaced s text.toList := by
  rw [unescape]
  constructor
  · intro h
    cases hdecode : Utf8.decode raw with
    | error fault =>
        rw [hdecode] at h
        cases h
    | ok s =>
        rw [hdecode] at h
        dsimp only at h
        cases hreplace : Entity.replace s with
        | error fault =>
            rw [hreplace] at h
            cases h
        | ok t =>
            rw [hreplace] at h
            cases h
            rw [String.toList_ofList]
            exact ⟨s, Utf8.decode_eq_ok_iff.mp hdecode, Entity.replace_eq_ok_iff.mp hreplace⟩
  · rintro ⟨s, hs, ht⟩
    rw [Utf8.decode_eq_ok_iff.mpr hs]
    dsimp only
    rw [Entity.replace_eq_ok_iff.mpr ht]
    exact congrArg Except.ok String.ofList_toList

/-- **Pieces that can be read can be read together**, and say one behind the other what each of
them says. -/
theorem unescape_append {a b : Bytes} {s t : String} (ha : unescape a = .ok s)
    (hb : unescape b = .ok t) : unescape (a ++ b) = .ok (s ++ t) := by
  obtain ⟨u, hu, hs⟩ := unescape_eq_ok_iff.mp ha
  obtain ⟨v, hv, ht⟩ := unescape_eq_ok_iff.mp hb
  refine unescape_eq_ok_iff.mpr ⟨u ++ v, hu.append hv, ?_⟩
  rw [String.toList_append]
  exact hs.append ht

/-- **A text without an ampersand is what the bytes of its characters say.** -/
theorem unescape_encode {s : List Char} (h : '&' ∉ s) :
    unescape (Utf8.encode s) = .ok (String.ofList s) := by
  refine unescape_eq_ok_iff.mpr ⟨s, Utf8.decodes_encode s, ?_⟩
  rw [String.toList_ofList]
  exact Entity.replaced_self h

end Xml

end SheetInspector
