import Mathlib.Data.List.Forall2
import Mathlib.Data.List.Induction
import Mathlib.Data.List.Nodup

/-!
# First wins

In a list of pairs the first value of each key wins. The pairs whose key does not occur
earlier are kept; the keys of all other pairs are repeated ones, as often as they occur.
-/

namespace DeviceConfig

open List

/-! ## Selecting by what comes earlier -/

/-- The members of a list that are kept in view of the members before them. -/
def filterByEarlier {α : Type*} (keep : List α → α → Bool) (xs : List α) : List α :=
  (xs.zipIdx.filter fun (x, i) => keep (xs.take i) x).map Prod.fst

/-- What is selected from a first part does not depend on what follows it. -/
theorem filterByEarlier_append {α : Type*} (keep : List α → α → Bool) (xs ys : List α) :
    filterByEarlier keep (xs ++ ys) =
      filterByEarlier keep xs ++ filterByEarlier (fun earlier => keep (xs ++ earlier)) ys := by
  have hleft : (xs.zipIdx.filter fun (x, i) => keep ((xs ++ ys).take i) x) =
      xs.zipIdx.filter fun (x, i) => keep (xs.take i) x := by
    apply List.filter_congr
    rintro ⟨x, i⟩ hx
    have hi : i < xs.length := by simpa using List.snd_lt_of_mem_zipIdx hx
    simp [List.take_append_of_le_length (Nat.le_of_lt hi)]
  have hright : ys.zipIdx xs.length = ys.zipIdx.map fun (y, i) => (y, xs.length + i) := by
    rw [List.zipIdx_eq_map_add]
  simp only [filterByEarlier, List.zipIdx_append, List.filter_append, List.map_append, hleft]
  simp [hright, List.filter_map, Function.comp_def, List.take_length_add_append]

theorem filterByEarlier_concat {α : Type*} (keep : List α → α → Bool) (xs : List α) (x : α) :
    filterByEarlier keep (xs ++ [x]) =
      filterByEarlier keep xs ++ if keep xs x then [x] else [] := by
  rw [filterByEarlier_append]
  by_cases h : keep xs x <;> simp [filterByEarlier, h]

theorem filterByEarlier_cons {α : Type*} (keep : List α → α → Bool) (x : α) (xs : List α) :
    filterByEarlier keep (x :: xs) =
      (if keep [] x then [x] else []) ++
        filterByEarlier (fun earlier => keep (x :: earlier)) xs := by
  have hsingle : filterByEarlier keep [x] = if keep [] x then [x] else [] := by
    by_cases h : keep [] x <;> simp [filterByEarlier, h]
  rw [← hsingle]
  exact filterByEarlier_append keep [x] xs

theorem filterByEarlier_sublist {α : Type*} (keep : List α → α → Bool) (xs : List α) :
    filterByEarlier keep xs <+ xs := by
  have h : filterByEarlier keep xs <+ xs.zipIdx.map Prod.fst := filter_sublist.map Prod.fst
  rwa [List.zipIdx_map_fst] at h

/-- The same places are selected from lists that are related member by member, if related
members are kept alike. -/
theorem forall₂_filterByEarlier {α β : Type*} {related : α → β → Prop} {xs : List α}
    {ys : List β} (h : Forall₂ related xs ys) {keep : List α → α → Bool}
    {keep' : List β → β → Bool}
    (hkeep : ∀ {as bs a b}, Forall₂ related as bs → related a b → keep as a = keep' bs b) :
    Forall₂ related (filterByEarlier keep xs) (filterByEarlier keep' ys) := by
  induction h generalizing keep keep' with
  | nil => exact .nil
  | cons hhead _ ih =>
      rw [filterByEarlier_cons, filterByEarlier_cons]
      apply List.rel_append
      · rw [hkeep .nil hhead]
        split
        · exact .cons hhead .nil
        · exact .nil
      · exact ih fun hrelated hmember => hkeep (.cons hhead hrelated) hmember

/-! ## First pairs and repeated keys -/

/-- The pairs whose key does not occur earlier. -/
def firstPairs (pairs : List (String × String)) : List (String × String) :=
  filterByEarlier (fun earlier pair => pair.1 ∉ earlier.map Prod.fst) pairs

/-- The keys of the pairs whose key occurs earlier, in order and with repetitions. -/
def repeatedKeys (pairs : List (String × String)) : List String :=
  (filterByEarlier (fun earlier pair => pair.1 ∈ earlier.map Prod.fst) pairs).map Prod.fst

@[simp] theorem firstPairs_nil : firstPairs [] = [] :=
  rfl

@[simp] theorem repeatedKeys_nil : repeatedKeys [] = [] :=
  rfl

theorem firstPairs_concat (pairs : List (String × String)) (pair : String × String) :
    firstPairs (pairs ++ [pair]) =
      firstPairs pairs ++ if pair.1 ∈ pairs.map Prod.fst then [] else [pair] := by
  rw [firstPairs, filterByEarlier_concat, ← firstPairs]
  by_cases h : pair.1 ∈ pairs.map Prod.fst <;> simp [h]

theorem repeatedKeys_concat (pairs : List (String × String)) (pair : String × String) :
    repeatedKeys (pairs ++ [pair]) =
      repeatedKeys pairs ++ if pair.1 ∈ pairs.map Prod.fst then [pair.1] else [] := by
  rw [repeatedKeys, filterByEarlier_concat, List.map_append, ← repeatedKeys]
  by_cases h : pair.1 ∈ pairs.map Prod.fst <;> simp [h]

/-- Every key has a first pair. -/
@[simp] theorem mem_keys_firstPairs {pairs : List (String × String)} {key : String} :
    key ∈ (firstPairs pairs).map Prod.fst ↔ key ∈ pairs.map Prod.fst := by
  induction pairs using List.reverseRecOn with
  | nil => simp
  | append_singleton pairs pair ih =>
      rw [firstPairs_concat, List.map_append, List.mem_append, ih, List.map_append,
        List.mem_append]
      by_cases h : pair.1 ∈ pairs.map Prod.fst
      · rw [if_pos h]
        constructor
        · rintro (hk | hk)
          · exact .inl hk
          · simp at hk
        · rintro (hk | hk)
          · exact .inl hk
          · have hkey : key = pair.1 := by simpa using hk
            exact .inl (hkey ▸ h)
      · rw [if_neg h]

theorem nodup_keys_concat {pairs : List (String × String)} {pair : String × String} :
    ((pairs ++ [pair]).map Prod.fst).Nodup ↔
      pair.1 ∉ pairs.map Prod.fst ∧ (pairs.map Prod.fst).Nodup := by
  rw [List.map_append, List.map_singleton, ← List.concat_eq_append, List.nodup_concat]

theorem firstPairs_keys_nodup (pairs : List (String × String)) :
    ((firstPairs pairs).map Prod.fst).Nodup := by
  induction pairs using List.reverseRecOn with
  | nil => simp
  | append_singleton pairs pair ih =>
      rw [firstPairs_concat]
      by_cases h : pair.1 ∈ pairs.map Prod.fst
      · simpa [h] using ih
      · rw [if_neg h, nodup_keys_concat]
        exact ⟨fun hk => h (mem_keys_firstPairs.mp hk), ih⟩

/-- First pairs and repeated keys together make up all keys. -/
theorem firstPairs_append_repeatedKeys_perm (pairs : List (String × String)) :
    (firstPairs pairs).map Prod.fst ++ repeatedKeys pairs ~ pairs.map Prod.fst := by
  induction pairs using List.reverseRecOn with
  | nil => simp
  | append_singleton pairs pair ih =>
      rw [firstPairs_concat, repeatedKeys_concat, List.map_append, List.map_append]
      by_cases h : pair.1 ∈ pairs.map Prod.fst
      · simp only [h, if_true, List.map_nil, List.append_nil, ← List.append_assoc]
        exact ih.append_right [pair.1]
      · simp only [h, if_false, List.append_nil]
        refine Perm.trans ?_ (ih.append_right [pair.1])
        rw [List.append_assoc, List.append_assoc]
        exact perm_append_comm.append_left _

theorem repeatedKeys_eq_nil_iff {pairs : List (String × String)} :
    repeatedKeys pairs = [] ↔ (pairs.map Prod.fst).Nodup := by
  induction pairs using List.reverseRecOn with
  | nil => simp
  | append_singleton pairs pair ih =>
      rw [repeatedKeys_concat, List.append_eq_nil_iff, ih, nodup_keys_concat]
      by_cases h : pair.1 ∈ pairs.map Prod.fst <;> simp [h]

theorem firstPairs_of_nodup {pairs : List (String × String)} (h : (pairs.map Prod.fst).Nodup) :
    firstPairs pairs = pairs := by
  induction pairs using List.reverseRecOn with
  | nil => simp
  | append_singleton pairs pair ih =>
      obtain ⟨hnew, hn⟩ := nodup_keys_concat.mp h
      rw [firstPairs_concat, ih hn, if_neg hnew]

/-! ## Lists in two parts -/

/-- Of a second part those first pairs are left whose key is new. -/
theorem firstPairs_append (xs ys : List (String × String)) :
    firstPairs (xs ++ ys) =
      firstPairs xs ++ (firstPairs ys).filter fun pair => pair.1 ∉ xs.map Prod.fst := by
  induction ys using List.reverseRecOn with
  | nil => simp
  | append_singleton ys y ih =>
      rw [← List.append_assoc, firstPairs_concat, ih, firstPairs_concat, List.filter_append,
        List.append_assoc, List.map_append]
      by_cases hx : y.1 ∈ xs.map Prod.fst
      · by_cases hy : y.1 ∈ ys.map Prod.fst
        · simp [hx, hy]
        · simp [hx, hy]
      · by_cases hy : y.1 ∈ ys.map Prod.fst
        · simp [hx, hy]
        · simp [hx, hy]

theorem repeatedKeys_prefix_append (xs ys : List (String × String)) :
    repeatedKeys xs <+: repeatedKeys (xs ++ ys) := by
  rw [repeatedKeys, repeatedKeys, filterByEarlier_append, List.map_append]
  exact List.prefix_append _ _

/-- Of a second part those first pairs are repeated as well whose key is taken. -/
theorem repeatedKeys_append_perm (xs ys : List (String × String)) :
    repeatedKeys (xs ++ ys) ~ repeatedKeys xs ++ (repeatedKeys ys ++
      ((firstPairs ys).filter fun pair => pair.1 ∈ xs.map Prod.fst).map Prod.fst) := by
  induction ys using List.reverseRecOn with
  | nil => simp
  | append_singleton ys y ih =>
      rw [← List.append_assoc, repeatedKeys_concat, repeatedKeys_concat, firstPairs_concat,
        List.map_append]
      refine (ih.append_right _).trans ?_
      by_cases hy : y.1 ∈ ys.map Prod.fst
      · simp only [hy, List.mem_append, or_true, if_true, List.append_nil, List.append_assoc]
        exact (perm_append_comm.append_left _).append_left _
      · by_cases hx : y.1 ∈ xs.map Prod.fst
        · simp [hx, hy]
        · simp [hx, hy]

/-! ## Lookup -/

/-- The first value of a key is the one that is found. -/
theorem lookup_firstPairs (pairs : List (String × String)) (key : String) :
    (firstPairs pairs).lookup key = pairs.lookup key := by
  induction pairs using List.reverseRecOn with
  | nil => rfl
  | append_singleton pairs pair ih =>
      obtain ⟨first, last⟩ := pair
      rw [firstPairs_concat, List.lookup_append, List.lookup_append, ih]
      by_cases hmem : first ∈ pairs.map Prod.fst
      · by_cases hkey : key = first
        · have hfound : (pairs.lookup key).isSome = true := by
            obtain ⟨pair, hpair, hfirst⟩ := List.mem_map.mp hmem
            rw [List.lookup_isSome_iff]
            exact ⟨pair, hpair, by simp [hkey, hfirst]⟩
          obtain ⟨value, hvalue⟩ := Option.isSome_iff_exists.mp hfound
          simp [hvalue]
        · have hb : (key == first) = false := by simpa using hkey
          simp [hmem, List.lookup_cons, hb]
      · simp [hmem]

theorem lookup_concat_of_ne {key first : String} (h : key ≠ first)
    (pairs : List (String × String)) (value : String) :
    (pairs ++ [(first, value)]).lookup key = pairs.lookup key := by
  have hb : (key == first) = false := by simpa using h
  simp [List.lookup_append, hb]

/-! ## The value of the last pair -/

theorem mem_keys_of_mem_repeatedKeys {pairs : List (String × String)} {key : String}
    (h : key ∈ repeatedKeys pairs) : key ∈ pairs.map Prod.fst :=
  (firstPairs_append_repeatedKeys_perm pairs).mem_iff.mp (List.mem_append_right _ h)

/-- A last pair whose key is repeated has no influence on the first pairs. -/
theorem firstPairs_concat_of_mem_repeatedKeys {pairs : List (String × String)}
    {key value : String} (h : key ∈ repeatedKeys (pairs ++ [(key, value)])) :
    firstPairs (pairs ++ [(key, value)]) = firstPairs pairs := by
  have hmem : key ∈ pairs.map Prod.fst := by
    by_contra hnew
    rw [repeatedKeys_concat, if_neg hnew, List.append_nil] at h
    exact hnew (mem_keys_of_mem_repeatedKeys h)
  rw [firstPairs_concat, if_pos hmem, List.append_nil]

/-! ## Other keys -/

section Renamed

variable {rename : String → String} {related : String × String → String × String → Prop}
  {xs ys : List (String × String)}

theorem keys_eq_map_of_forall₂ (hkey : ∀ x y, related x y → y.1 = rename x.1)
    (h : Forall₂ related xs ys) : ys.map Prod.fst = (xs.map Prod.fst).map rename := by
  induction h with
  | nil => rfl
  | cons hhead _ ih => rw [List.map_cons, List.map_cons, List.map_cons, ih, hkey _ _ hhead]

theorem mem_keys_iff_of_forall₂ (hinj : Function.Injective rename)
    (hkey : ∀ x y, related x y → y.1 = rename x.1) (h : Forall₂ related xs ys)
    {x y : String × String} (hxy : related x y) :
    y.1 ∈ ys.map Prod.fst ↔ x.1 ∈ xs.map Prod.fst := by
  rw [keys_eq_map_of_forall₂ hkey h, hkey x y hxy, List.mem_map_of_injective hinj]

/-- Under other keys, no two of which have become one, the first pairs stand in the same
places. -/
theorem forall₂_firstPairs (hinj : Function.Injective rename)
    (hkey : ∀ x y, related x y → y.1 = rename x.1) (h : Forall₂ related xs ys) :
    Forall₂ related (firstPairs xs) (firstPairs ys) := by
  apply forall₂_filterByEarlier h
  intro as bs a b hearlier hab
  simp only [mem_keys_iff_of_forall₂ hinj hkey hearlier hab]

/-- Under other keys, no two of which have become one, the same keys are repeated. -/
theorem repeatedKeys_eq_map_of_forall₂ (hinj : Function.Injective rename)
    (hkey : ∀ x y, related x y → y.1 = rename x.1) (h : Forall₂ related xs ys) :
    repeatedKeys ys = (repeatedKeys xs).map rename := by
  apply keys_eq_map_of_forall₂ hkey
  apply forall₂_filterByEarlier h
  intro as bs a b hearlier hab
  simp only [mem_keys_iff_of_forall₂ hinj hkey hearlier hab]

end Renamed

theorem forall₂_keys_eq {xs ys : List (String × String)} (h : xs.map Prod.fst = ys.map Prod.fst) :
    Forall₂ (fun x y => y.1 = id x.1) xs ys := by
  have hkeys : Forall₂ (· = ·) (xs.map Prod.fst) (ys.map Prod.fst) := by
    rw [forall₂_eq_eq_eq, h]
  rw [forall₂_map_left_iff, forall₂_map_right_iff] at hkeys
  exact hkeys.imp fun _ _ => Eq.symm

/-- Which keys are kept does not depend on the values. -/
theorem keys_firstPairs_congr {xs ys : List (String × String)}
    (h : xs.map Prod.fst = ys.map Prod.fst) :
    (firstPairs xs).map Prod.fst = (firstPairs ys).map Prod.fst := by
  have hkept := forall₂_firstPairs Function.injective_id (fun _ _ => id) (forall₂_keys_eq h)
  simpa using (keys_eq_map_of_forall₂ (fun _ _ => id) hkept).symm

/-- Which keys are repeated does not depend on the values. -/
theorem repeatedKeys_congr {xs ys : List (String × String)}
    (h : xs.map Prod.fst = ys.map Prod.fst) : repeatedKeys xs = repeatedKeys ys := by
  have hrepeated :=
    repeatedKeys_eq_map_of_forall₂ Function.injective_id (fun _ _ => id) (forall₂_keys_eq h)
  simpa using hrepeated.symm

/-! ## Other orders -/

theorem keys_firstPairs_perm {xs ys : List (String × String)} (h : xs ~ ys) :
    (firstPairs xs).map Prod.fst ~ (firstPairs ys).map Prod.fst := by
  rw [List.perm_ext_iff_of_nodup (firstPairs_keys_nodup xs) (firstPairs_keys_nodup ys)]
  intro key
  rw [mem_keys_firstPairs, mem_keys_firstPairs]
  exact (h.map Prod.fst).mem_iff

/-- Which keys are repeated, and how often, does not depend on the order of the pairs. -/
theorem repeatedKeys_perm {xs ys : List (String × String)} (h : xs ~ ys) :
    repeatedKeys xs ~ repeatedKeys ys := by
  have hall : (firstPairs xs).map Prod.fst ++ repeatedKeys xs ~
      (firstPairs xs).map Prod.fst ++ repeatedKeys ys :=
    calc
      (firstPairs xs).map Prod.fst ++ repeatedKeys xs ~ xs.map Prod.fst :=
        firstPairs_append_repeatedKeys_perm xs
      _ ~ ys.map Prod.fst := h.map Prod.fst
      _ ~ (firstPairs ys).map Prod.fst ++ repeatedKeys ys :=
        (firstPairs_append_repeatedKeys_perm ys).symm
      _ ~ (firstPairs xs).map Prod.fst ++ repeatedKeys ys :=
        (keys_firstPairs_perm h).symm.append_right _
  exact (List.perm_append_left_iff _).mp hall

end DeviceConfig
