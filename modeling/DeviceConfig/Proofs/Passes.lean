import DeviceConfig.Compilation
import DeviceConfig.Proofs.Collection

/-!
# The passes of a compilation

A compilation runs one pass for each kind of collection. It succeeds exactly if the keys
of every pass are distinct. Its maps hold the first pairs of their passes either way.
-/

namespace DeviceConfig

/-- The map that one pass has filled. -/
def CommandSet.ofPass (set : CommandSet) : CollectionKind → KeyMap
  | .fields => set.fields
  | .expressions .install => set.install
  | .expressions .uninstall => set.uninstall

/-- The duplicates that one pass has met. -/
def CompileError.ofPass (error : CompileError) : CollectionKind → DuplicateKeys
  | .fields => error.fieldDuplicates
  | .expressions .install => error.installDuplicates
  | .expressions .uninstall => error.uninstallDuplicates

/-- The duplicates that one pass of a compilation has met, none if it succeeded. -/
def Compilation.duplicates (compilation : Compilation) (kind : CollectionKind) : DuplicateKeys :=
  match compilation.result with
  | .ok _ => {}
  | .error error => error.ofPass kind

theorem CollectionKind.forall_iff {p : CollectionKind → Prop} :
    (∀ kind, p kind) ↔ p .fields ∧ p (.expressions .install) ∧ p (.expressions .uninstall) := by
  constructor
  · exact fun h => ⟨h _, h _, h _⟩
  · rintro ⟨hfields, hinstall, huninstall⟩ (_ | _ | _)
    · exact hfields
    · exact hinstall
    · exact huninstall

/-- A compilation whose passes have taken in the given pairs. -/
structure Compilation.Accounts (compilation : Compilation)
    (generated : CollectionKind → List (String × String)) : Prop where
  ok : ∀ {set : CommandSet}, compilation.result = .ok set → ∀ kind,
    ((generated kind).map Prod.fst).Nodup ∧ (set.ofPass kind).entries = generated kind
  error : ∀ {error : CompileError}, compilation.result = .error error →
    (¬∀ kind, ((generated kind).map Prod.fst).Nodup) ∧
    ∀ kind, (error.kept.ofPass kind).entries = firstPairs (generated kind) ∧
      (error.ofPass kind).keys = repeatedKeys (generated kind)

/-- A map holds the first pairs of its pass, whether or not the unit compiles. -/
theorem Compilation.Accounts.kept {compilation : Compilation}
    {generated : CollectionKind → List (String × String)} (h : compilation.Accounts generated)
    (kind : CollectionKind) :
    (compilation.kept.ofPass kind).entries = firstPairs (generated kind) := by
  unfold Compilation.kept
  cases hresult : compilation.result with
  | ok set =>
      obtain ⟨hn, hentries⟩ := h.ok hresult kind
      rw [firstPairs_of_nodup hn]
      exact hentries
  | error error => exact ((h.error hresult).2 kind).1

theorem Compilation.Accounts.mem_keys_iff {compilation : Compilation}
    {generated : CollectionKind → List (String × String)} (h : compilation.Accounts generated)
    (kind : CollectionKind) {key : String} :
    key ∈ (compilation.kept.ofPass kind).keys ↔ key ∈ (generated kind).map Prod.fst := by
  rw [KeyMap.keys, h.kept, mem_keys_firstPairs]

theorem Compilation.Accounts.duplicates {compilation : Compilation}
    {generated : CollectionKind → List (String × String)} (h : compilation.Accounts generated)
    (kind : CollectionKind) : (compilation.duplicates kind).keys = repeatedKeys (generated kind) := by
  unfold Compilation.duplicates
  cases hresult : compilation.result with
  | ok set => exact (repeatedKeys_eq_nil_iff.mpr (h.ok hresult kind).1).symm
  | error error => exact ((h.error hresult).2 kind).2

theorem Compilation.Accounts.get? {compilation : Compilation}
    {generated : CollectionKind → List (String × String)} (h : compilation.Accounts generated)
    (kind : CollectionKind) (key : String) :
    (compilation.kept.ofPass kind).get? key = (generated kind).lookup key := by
  rw [KeyMap.get?, h.kept, lookup_firstPairs]

theorem Compilation.Accounts.ok_iff {compilation : Compilation}
    {generated : CollectionKind → List (String × String)} (h : compilation.Accounts generated) :
    (∃ set, compilation.result = .ok set) ↔ ∀ kind, ((generated kind).map Prod.fst).Nodup := by
  constructor
  · rintro ⟨set, hset⟩ kind
    exact (h.ok hset kind).1
  · intro hn
    cases hresult : compilation.result with
    | ok set => exact ⟨set, rfl⟩
    | error error => exact absurd hn (h.error hresult).1

theorem compilePasses_accounts (unit : String) {pass : CollectionKind → Ledger}
    {generated : CollectionKind → List (String × String)}
    (hpass : ∀ kind, (pass kind).Accounts (generated kind)) :
    (compilePasses unit pass).Accounts generated := by
  have hempty : ((pass .fields).duplicates.isEmpty &&
        (pass (.expressions .install)).duplicates.isEmpty &&
        (pass (.expressions .uninstall)).duplicates.isEmpty) = true ↔
      ∀ kind, ((generated kind).map Prod.fst).Nodup := by
    rw [CollectionKind.forall_iff, Bool.and_eq_true, Bool.and_eq_true, and_assoc,
      (hpass _).isEmpty_iff, (hpass _).isEmpty_iff, (hpass _).isEmpty_iff]
  by_cases hn : ∀ kind, ((generated kind).map Prod.fst).Nodup
  · have hresult : (compilePasses unit pass).result = .ok ⟨(pass .fields).kept,
        (pass (.expressions .install)).kept, (pass (.expressions .uninstall)).kept⟩ := by
      rw [compilePasses, if_pos (hempty.mpr hn)]
    constructor
    · intro set hset kind
      obtain rfl := Except.ok.inj (hresult.symm.trans hset)
      refine ⟨hn kind, ?_⟩
      rw [← firstPairs_of_nodup (hn kind), ← (hpass kind).kept]
      rcases kind with _ | _ | _ <;> rfl
    · intro error herror
      rw [hresult] at herror
      cases herror
  · have hresult : (compilePasses unit pass).result = .error ⟨⟨(pass .fields).kept,
        (pass (.expressions .install)).kept, (pass (.expressions .uninstall)).kept⟩,
        (pass .fields).duplicates, (pass (.expressions .install)).duplicates,
        (pass (.expressions .uninstall)).duplicates⟩ := by
      rw [compilePasses, if_neg (mt hempty.mp hn)]
    constructor
    · intro set hset
      rw [hresult] at hset
      cases hset
    · intro error herror
      obtain rfl := Except.error.inj (hresult.symm.trans herror)
      refine ⟨hn, fun kind => ?_⟩
      rw [← (hpass kind).kept, ← (hpass kind).duplicates]
      rcases kind with _ | _ | _ <;> exact ⟨rfl, rfl⟩

theorem Package.compile_accounts (package : Package) :
    package.compile.Accounts fun kind => (Source.ofPackage package).generated kind :=
  compilePasses_accounts _ fun kind => (Source.ofPackage package).collect_accounts kind

theorem Module.compile_accounts (scope : String) (module : Module) :
    (module.compile scope).Accounts fun kind => (Source.ofModule scope module).generated kind :=
  compilePasses_accounts _ fun kind => (Source.ofModule scope module).collect_accounts kind

end DeviceConfig
