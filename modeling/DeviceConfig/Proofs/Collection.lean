import DeviceConfig.Proofs.FirstWins
import DeviceConfig.Proofs.Generated

/-!
# What a collection returns

One ledger is threaded through all parts of a source. At every point of the walk it
accounts for the pairs generated so far: it holds their first pairs and lists their
repeated keys. Hence the first pair of each key wins over the whole source.
-/

namespace DeviceConfig

/-! ## The ledger during a walk -/

/-- A ledger that has taken in the given pairs and nothing else. -/
structure Ledger.Accounts (ledger : Ledger) (pairs : List (String × String)) : Prop where
  kept : ledger.kept.entries = firstPairs pairs
  duplicates : ledger.duplicates.keys = repeatedKeys pairs

namespace Ledger.Accounts

variable {ledger : Ledger} {pairs : List (String × String)}

theorem empty : Ledger.empty.Accounts [] :=
  ⟨rfl, rfl⟩

theorem note (h : ledger.Accounts pairs) (events : List Event) :
    (ledger.note events).Accounts pairs :=
  ⟨h.kept, h.duplicates⟩

theorem mem_keys_iff (h : ledger.Accounts pairs) {key : String} :
    key ∈ ledger.kept.keys ↔ key ∈ pairs.map Prod.fst := by
  rw [KeyMap.keys, h.kept, mem_keys_firstPairs]

/-- One insertion keeps the pair or rejects its key, whichever is due. -/
theorem insert (h : ledger.Accounts pairs) (key value : String) :
    (ledger.insert key value).Accounts (pairs ++ [(key, value)]) := by
  by_cases hmem : key ∈ ledger.kept.keys
  · have hold : key ∈ pairs.map Prod.fst := h.mem_keys_iff.mp hmem
    rw [Ledger.insert, KeyMap.insertNew?_of_mem value hmem]
    constructor
    · rw [firstPairs_concat, if_pos hold, List.append_nil]
      exact h.kept
    · rw [repeatedKeys_concat, if_pos hold, ← h.duplicates]
      rfl
  · have hnew : key ∉ pairs.map Prod.fst := fun hold => hmem (h.mem_keys_iff.mpr hold)
    obtain ⟨more, hinsert, hentries⟩ := KeyMap.insertNew?_of_not_mem value hmem
    rw [Ledger.insert, hinsert]
    constructor
    · rw [firstPairs_concat, if_neg hnew, ← h.kept]
      exact hentries
    · rw [repeatedKeys_concat, if_neg hnew, List.append_nil]
      exact h.duplicates

theorem record (h : ledger.Accounts pairs) (entry : Entry) :
    (ledger.record entry).Accounts (pairs ++ [entry.pair]) :=
  (h.note _).insert entry.key entry.value

/-- A walk over parts accounts for the pairs of all of them, if each step accounts for
those of its own part. -/
theorem foldl {α : Type} {step : Ledger → α → Ledger} {generate : α → List (String × String)}
    (hstep : ∀ (x : α) {ledger : Ledger} {pairs : List (String × String)},
      ledger.Accounts pairs → (step ledger x).Accounts (pairs ++ generate x))
    (h : ledger.Accounts pairs) (xs : List α) :
    (xs.foldl step ledger).Accounts (pairs ++ xs.flatMap generate) := by
  induction xs generalizing ledger pairs with
  | nil => simpa using h
  | cons x xs ih =>
      rw [List.foldl_cons, List.flatMap_cons, ← List.append_assoc]
      exact ih (hstep x h)

theorem collectSection (h : ledger.Accounts pairs) (kind : CollectionKind) (scope : String)
    (part : Section) :
    (part.collectInto kind scope ledger).Accounts
      (pairs ++ (part.declarations scope).flatMap (Declaration.pairs kind)) := by
  have hwalk : ((part.entries kind scope).foldl Ledger.record ledger).Accounts
      (pairs ++ (part.entries kind scope).flatMap fun entry => [entry.pair]) :=
    foldl (fun entry _ _ h => h.record entry) h _
  rw [← List.map_eq_flatMap, Section.map_pair_entries] at hwalk
  exact hwalk.note _

theorem collectModule (h : ledger.Accounts pairs) (kind : CollectionKind) (scope : String)
    (module : Module) :
    (module.collectInto kind scope ledger).Accounts
      (pairs ++ (module.declarations scope).flatMap (Declaration.pairs kind)) := by
  have hwalk := foldl (fun part _ _ h => h.collectSection kind (module.fullName scope) part) h
    module.sections
  rw [← List.flatMap_assoc] at hwalk
  exact hwalk.note _

theorem collectPackage (kind : CollectionKind) (package : Package) :
    (package.collect kind).Accounts (package.declarations.flatMap (Declaration.pairs kind)) := by
  have hwalk := foldl (fun module _ _ h => h.collectModule kind package.name.text module) .empty
    package.modules
  rw [← List.flatMap_assoc] at hwalk
  exact hwalk.note _

theorem isEmpty_iff (h : ledger.Accounts pairs) :
    ledger.duplicates.isEmpty = true ↔ (pairs.map Prod.fst).Nodup := by
  rw [DuplicateKeys.isEmpty, List.isEmpty_iff, h.duplicates, repeatedKeys_eq_nil_iff]

end Ledger.Accounts

/-! ## Results -/

theorem Source.collect_accounts (source : Source) (kind : CollectionKind) :
    (source.collect kind).Accounts (source.generated kind) := by
  cases source with
  | ofPackage package => exact .collectPackage kind package
  | ofModule scope module => exact Ledger.Accounts.empty.collectModule kind scope module
  | ofSection scope part => exact Ledger.Accounts.empty.collectSection kind scope part

/-- A collection keeps the first pair of each key in the order of generation and reports
every other key in that order. It succeeds exactly if no key is generated twice. -/
theorem Source.collect_first_wins (source : Source) (kind : CollectionKind) :
    ((source.collect kind).result.isOk = true ↔ ((source.generated kind).map Prod.fst).Nodup) ∧
    match (source.collect kind).result with
    | .ok map =>
        map.entries = firstPairs (source.generated kind) ∧
        repeatedKeys (source.generated kind) = []
    | .error conflict =>
        conflict.kept.entries = firstPairs (source.generated kind) ∧
        conflict.duplicates.keys = repeatedKeys (source.generated kind) ∧
        conflict.duplicates.keys ≠ [] := by
  have h := source.collect_accounts kind
  by_cases hn : ((source.generated kind).map Prod.fst).Nodup
  · rw [Ledger.result, if_pos (h.isEmpty_iff.mpr hn)]
    exact ⟨iff_of_true rfl hn, h.kept, repeatedKeys_eq_nil_iff.mpr hn⟩
  · rw [Ledger.result, if_neg (mt h.isEmpty_iff.mp hn)]
    refine ⟨iff_of_false (by simp [Except.isOk, Except.toBool]) hn, h.kept, h.duplicates, ?_⟩
    rw [h.duplicates]
    exact mt repeatedKeys_eq_nil_iff.mp hn

end DeviceConfig
