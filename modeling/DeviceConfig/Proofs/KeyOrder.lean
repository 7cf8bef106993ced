import DeviceConfig.Proofs.KeyMap
import DeviceConfig.Proofs.Merge
import DeviceConfig.Text.Utf8

/-!
# The order of keys

Keys are compared by their UTF-8 bytes. A larger character has larger bytes, and the bytes
of no character start those of another one, so this is the order of the characters too. In
this order a map has one sorted view, and maps with the same view are the same.
-/

namespace DeviceConfig

/-! ## The bytes of a character -/

/-- A number in bytes: a first byte that carries a mark, and further ones of six bits each. -/
def markedBytes (mark : Nat) : Nat → Nat → List UInt8
  | 0, value => [UInt8.ofNat (mark + value)]
  | further + 1, value =>
    markedBytes mark further (value / 64) ++ [UInt8.ofNat (128 + value % 64)]

/-- The bits of a number that are left for the first byte. -/
def leadingBits : Nat → Nat → Nat
  | 0, value => value
  | further + 1, value => leadingBits further (value / 64)

theorem ofNat_lt_ofNat {x y : Nat} (h : x < y) (hy : y < 256) :
    UInt8.ofNat x < UInt8.ofNat y :=
  (UInt8.ofNat_lt_iff_lt (Nat.lt_trans h hy) hy).mpr h

theorem exists_markedBytes_eq_cons (mark further value : Nat) :
    ∃ rest, markedBytes mark further value =
      UInt8.ofNat (mark + leadingBits further value) :: rest := by
  induction further generalizing value with
  | zero => exact ⟨[], rfl⟩
  | succ further ih =>
      obtain ⟨rest, hrest⟩ := ih (value / 64)
      refine ⟨rest ++ [UInt8.ofNat (128 + value % 64)], ?_⟩
      rw [markedBytes, hrest]
      rfl

/-- Of two numbers in equally many bytes the smaller one has the smaller bytes, whatever
follows them. -/
theorem markedBytes_append_lt {mark further x y : Nat} (h : x < y)
    (hfirst : mark + leadingBits further y < 256) (xs ys : List UInt8) :
    markedBytes mark further x ++ xs < markedBytes mark further y ++ ys := by
  induction further generalizing x y xs ys with
  | zero => exact List.cons_lt_cons_iff.mpr (.inl (ofNat_lt_ofNat (by omega) hfirst))
  | succ further ih =>
      rw [markedBytes, markedBytes, List.append_assoc, List.append_assoc]
      -- The numbers differ in what the earlier bytes carry, or in the last byte only.
      by_cases hhigh : x / 64 < y / 64
      · exact ih hhigh hfirst _ _
      · have hsame : x / 64 = y / 64 := by omega
        rw [hsame]
        apply List.append_left_lt
        exact List.cons_lt_cons_iff.mpr (.inl (ofNat_lt_ofNat (by omega) (by omega)))

/-- The mark with which a scalar value is written, and the number of its further bytes. -/
inductive ByteForm (value : Nat) : Nat → Nat → Prop where
  | one (h : value < 0x80) : ByteForm value 0 0
  | two (hlow : 0x80 ≤ value) (h : value < 0x800) : ByteForm value 0xC0 1
  | three (hlow : 0x800 ≤ value) (h : value < 0x10000) : ByteForm value 0xE0 2
  | four (hlow : 0x10000 ≤ value) (h : value < 0x110000) : ByteForm value 0xF0 3

namespace ByteForm

variable {x y mark mark' further further' : Nat}

theorem first_lt (h : ByteForm x mark further) : mark + leadingBits further x < 256 := by
  cases h <;> simp only [leadingBits] <;> omega

/-- A smaller number is written in the same form or with a smaller first byte. -/
theorem eq_or_first_lt (hx : ByteForm x mark further) (hy : ByteForm y mark' further')
    (h : x < y) : (mark = mark' ∧ further = further') ∨
      mark + leadingBits further x < mark' + leadingBits further' y := by
  cases hx <;> cases hy <;> simp [leadingBits] <;> omega

theorem append_lt (hx : ByteForm x mark further) (hy : ByteForm y mark' further') (h : x < y)
    (xs ys : List UInt8) :
    markedBytes mark further x ++ xs < markedBytes mark' further' y ++ ys := by
  rcases hx.eq_or_first_lt hy h with ⟨rfl, rfl⟩ | hfirst
  · exact markedBytes_append_lt h hy.first_lt xs ys
  · obtain ⟨rest, hrest⟩ := exists_markedBytes_eq_cons mark further x
    obtain ⟨rest', hrest'⟩ := exists_markedBytes_eq_cons mark' further' y
    rw [hrest, hrest']
    exact List.cons_lt_cons_iff.mpr (.inl (ofNat_lt_ofNat hfirst hy.first_lt))

end ByteForm

theorem exists_byteForm (c : Char) : ∃ mark further, ByteForm c.val.toNat mark further ∧
    String.utf8EncodeChar c = markedBytes mark further c.val.toNat := by
  have hvalid : c.val.toNat < 0x110000 := by
    rcases c.valid with h | h
    · exact Nat.lt_trans h (by decide)
    · exact h.2
  rw [String.utf8EncodeChar]
  generalize c.val.toNat = value at hvalid ⊢
  by_cases hone : value < 0x80
  · refine ⟨_, _, .one hone, ?_⟩
    rw [if_pos (by omega)]
    simp [markedBytes]
  by_cases htwo : value < 0x800
  · refine ⟨_, _, .two (by omega) htwo, ?_⟩
    rw [if_neg (by omega), if_pos (by omega), Nat.mod_eq_of_lt (by omega : value / 64 < 32)]
    simp [markedBytes, Nat.add_comm]
  by_cases hthree : value < 0x10000
  · refine ⟨_, _, .three (by omega) hthree, ?_⟩
    rw [if_neg (by omega), if_neg (by omega), if_pos (by omega),
      Nat.mod_eq_of_lt (by omega : value / 4096 < 16)]
    simp [markedBytes, Nat.add_comm, Nat.div_div_eq_div_mul]
  · refine ⟨_, _, .four (by omega) hvalid, ?_⟩
    rw [if_neg (by omega), if_neg (by omega), if_neg (by omega),
      Nat.mod_eq_of_lt (by omega : value / 262144 < 8)]
    simp [markedBytes, Nat.add_comm, Nat.div_div_eq_div_mul]

theorem utf8EncodeChar_append_lt {c d : Char} (h : c < d) (xs ys : List UInt8) :
    String.utf8EncodeChar c ++ xs < String.utf8EncodeChar d ++ ys := by
  obtain ⟨mark, further, hc, hbytes⟩ := exists_byteForm c
  obtain ⟨mark', further', hd, hbytes'⟩ := exists_byteForm d
  rw [hbytes, hbytes']
  exact hc.append_lt hd h xs ys

/-! ## The bytes of a text -/

theorem encode_lt {xs ys : List Char} (h : xs < ys) : Text.encode xs < Text.encode ys := by
  induction h with
  | @nil c ys =>
      obtain ⟨byte, rest, hbytes⟩ :=
        List.exists_cons_of_ne_nil (String.utf8EncodeChar_ne_nil (c := c))
      rw [Text.encode_nil, Text.encode_cons, hbytes]
      exact List.nil_lt_cons _ _
  | rel h =>
      rw [Text.encode_cons, Text.encode_cons]
      exact utf8EncodeChar_append_lt h _ _
  | cons _ ih =>
      rw [Text.encode_cons, Text.encode_cons]
      exact List.append_left_lt ih

theorem utf8Bytes_lt {a b : String} (h : a < b) : utf8Bytes a < utf8Bytes b := by
  rw [← encode_toList, ← encode_toList]
  exact encode_lt h

/-- The order of bytes is the order of characters. -/
theorem utf8Bytes_lt_iff {a b : String} : utf8Bytes a < utf8Bytes b ↔ a < b := by
  constructor
  · intro h
    rcases Std.lt_trichotomy a b with hlt | rfl | hlt
    · exact hlt
    · exact absurd h (List.lt_irrefl _)
    · exact absurd h (List.lt_asymm (utf8Bytes_lt hlt))
  · exact utf8Bytes_lt

theorem utf8Bytes_le_iff {a b : String} : utf8Bytes a ≤ utf8Bytes b ↔ a ≤ b := by
  rw [← List.not_lt, ← String.not_lt, utf8Bytes_lt_iff]

theorem utf8Bytes_inj {a b : String} : utf8Bytes a = utf8Bytes b ↔ a = b := by
  rw [utf8Bytes, utf8Bytes, Array.toList_inj, ← ByteArray.ext_iff]
  exact String.toByteArray_inj

/-- Names are compared by the bytes of their texts. -/
theorem compare_name {kind : NameKind} (a b : Name kind) :
    compare a b = compareOfLessAndEq (utf8Bytes a.text) (utf8Bytes b.text) := by
  have htext : compare a b = compareOfLessAndEq a.text b.text := rfl
  simp only [htext, compareOfLessAndEq, utf8Bytes_lt_iff, utf8Bytes_inj]

/-! ## The sorted view -/

/-- A view that shows the entries of a map in the strictly ascending order of the bytes of
their keys. There is no other one, not even if equal keys might stand in any order. -/
structure KeyMap.Shows (map : KeyMap) (view : List (String × String)) : Prop where
  perm : view.Perm map.entries
  ascending : view.Pairwise fun a b => utf8Bytes a.1 < utf8Bytes b.1
  unique : ∀ other : List (String × String), other.Perm map.entries →
    (other.Pairwise fun a b => utf8Bytes a.1 ≤ utf8Bytes b.1) → other = view

theorem KeyMap.shows_sorted (map : KeyMap) : map.Shows map.sorted := by
  constructor
  · exact map.sorted_perm
  · exact map.sorted_strict.imp utf8Bytes_lt
  · intro other hperm hascending
    exact eq_sorted_of_perm hperm (hascending.imp utf8Bytes_le_iff.mp)

/-- The order of bytes is the order of characters, by which names are compared. In this order
the sorted view of a map is the only one; that of a collection shows the first pair of every
generated key. Two maps are the same exactly if their sorted views are. -/
theorem KeyMap.sorted_canonical :
    (∀ a b : String, utf8Bytes a < utf8Bytes b ↔ a.toList < b.toList) ∧
    (∀ (kind : NameKind) (a b : Name kind),
      compare a b = compareOfLessAndEq (utf8Bytes a.text) (utf8Bytes b.text)) ∧
    (∀ map : KeyMap, map.Shows map.sorted) ∧
    (∀ (source : Source) (kind : CollectionKind),
      (Collected.kept (source.collect kind).result).sorted.Perm
        (firstPairs (source.generated kind))) ∧
    ∀ a b : KeyMap, a.same b = true ↔ a.sorted = b.sorted := by
  refine ⟨fun a b => utf8Bytes_lt_iff, fun kind => compare_name, shows_sorted,
    fun source kind => ?_, fun a b => same_iff_sorted_eq⟩
  rw [Ledger.kept_result, ← (source.collect_accounts kind).kept]
  exact sorted_perm _

end DeviceConfig
