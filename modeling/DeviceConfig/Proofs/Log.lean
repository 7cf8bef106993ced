import DeviceConfig.Proofs.Merge
import DeviceConfig.Proofs.Passes
import Mathlib.Algebra.BigOperators.Group.List.Basic
import Mathlib.Algebra.GroupWithZero.Nat

/-!
# What the log says

The log of a collection can be read without the collection: the keys that it shows as
rejected are the duplicates, its counts add up to what was kept and what was not, and its
promotions are those of the templates. The log of a compilation is that of its three passes
and one event on their outcome, so it shows the promotions of all templates and no others.
-/

namespace DeviceConfig

/-! ## Reading a log -/

namespace Event

/-- The promotion that an event is about. -/
def promotion? : Event → Option Promotion
  | promoted id key => some ⟨id, key⟩
  | _ => none

/-- The number of declarations that the event of a section counts. -/
def sectionCount? : Event → Option Nat
  | sectionFields _ _ fields => some fields
  | sectionExpressions _ _ _ elements => some elements
  | _ => none

/-- The number of duplicates that the event of a module counts. -/
def moduleDuplicates? : Event → Option Nat
  | moduleCollected _ _ _ _ duplicates => some duplicates
  | _ => none

/-- The number of entries that the event of a package counts. -/
def packageEntries? : Event → Option Nat
  | packageCollected _ _ _ entries => some entries
  | _ => none

/-- Whether an event is about the outcome of a compilation. -/
def isOutcome : Event → Bool
  | compiled .. | compilationFailed .. => true
  | _ => false

/-- What an event is about: one entry, a section, a module, a package or a compilation. -/
def reach : Event → Nat
  | promoted .. | rejected .. => 0
  | sectionFields .. | sectionExpressions .. => 1
  | moduleCollected .. => 2
  | packageCollected .. => 3
  | compiled .. | compilationFailed .. => 4

variable {event : Event}

theorem sectionCount?_of_reach (h : event.reach = 0) : event.sectionCount? = none := by
  cases event <;> first | rfl | simp [reach] at h

theorem moduleDuplicates?_of_reach (h : event.reach ≤ 1) : event.moduleDuplicates? = none := by
  cases event <;> first | rfl | simp [reach] at h

theorem packageEntries?_of_reach (h : event.reach ≤ 2) : event.packageEntries? = none := by
  cases event <;> first | rfl | simp [reach] at h

theorem isOutcome_of_reach (h : event.reach ≤ 3) : event.isOutcome = false := by
  cases event <;> first | rfl | simp [reach] at h

end Event

/-- The keys that a log shows as rejected, in order. -/
def rejectedKeys (log : List Event) : List String :=
  log.filterMap Event.rejectedKey?

/-- For each event of a module, the number of keys that a log shows as rejected since the
event of the module before. -/
def rejectionsByModule (since : Nat) : List Event → List Nat
  | [] => []
  | .moduleCollected .. :: log => since :: rejectionsByModule 0 log
  | .rejected _ :: log => rejectionsByModule (since + 1) log
  | _ :: log => rejectionsByModule since log

/-- Behind events that are about no module, the count goes on with the keys they reject. -/
theorem rejectionsByModule_append {events : List Event} (h : ∀ event ∈ events, event.reach ≤ 1)
    (since : Nat) (log : List Event) :
    rejectionsByModule since (events ++ log) =
      rejectionsByModule (since + (rejectedKeys events).length) log := by
  induction events generalizing since with
  | nil => rfl
  | cons event events ih =>
      rw [List.forall_mem_cons] at h
      have hrest := ih h.2
      cases event with
      | rejected key =>
          simp only [List.cons_append, rejectionsByModule, hrest, rejectedKeys,
            List.filterMap_cons, Event.rejectedKey?, List.length_cons]
          congr 1
          omega
      | moduleCollected => simp [Event.reach] at h
      | packageCollected => simp [Event.reach] at h
      | compiled => simp [Event.reach] at h
      | compilationFailed => simp [Event.reach] at h
      | promoted => exact hrest since
      | sectionFields => exact hrest since
      | sectionExpressions => exact hrest since

/-! ## Events of an entry -/

namespace Entry

/-- The events of the promotions in an entry. -/
def promotedEvents (entry : Entry) : List Event :=
  entry.promotions.map fun p => .promoted p.id p.key

variable (entry : Entry)

theorem rejectedKeys_promotedEvents : rejectedKeys entry.promotedEvents = [] := by
  simp [rejectedKeys, promotedEvents, Event.rejectedKey?]

theorem filterMap_promotedEvents :
    entry.promotedEvents.filterMap Event.promotion? = entry.promotions := by
  simp [promotedEvents, List.filterMap_map, Function.comp_def, Event.promotion?]

theorem reach_promotedEvents : ∀ event ∈ entry.promotedEvents, event.reach = 0 := by
  simp [promotedEvents, Event.reach]

end Entry

theorem Ledger.record_of_mem (ledger : Ledger) {entry : Entry}
    (h : entry.key ∈ ledger.kept.keys) :
    ledger.record entry =
      { ledger with
        duplicates := ledger.duplicates.push entry.key
        log := ledger.log ++ entry.promotedEvents ++ [.rejected entry.key] } := by
  have hinsert := KeyMap.insertNew?_of_mem entry.value h
  simp only [record, insert, note, hinsert, Entry.promotedEvents]

theorem Ledger.record_of_not_mem (ledger : Ledger) {entry : Entry}
    (h : entry.key ∉ ledger.kept.keys) :
    ∃ kept : KeyMap,
      ledger.record entry = { ledger with kept, log := ledger.log ++ entry.promotedEvents } ∧
        kept.entries = ledger.kept.entries ++ [(entry.key, entry.value)] := by
  obtain ⟨kept, hinsert, hentries⟩ := KeyMap.insertNew?_of_not_mem entry.value h
  refine ⟨kept, ?_, hentries⟩
  simp only [record, insert, note, hinsert, Entry.promotedEvents]

/-! ## Events of a walk -/

/-- A ledger that has taken in entries, with the events that it has logged meanwhile. -/
structure Ledger.Logs (old new : Ledger) (entries : List Entry) (events : List Event) :
    Prop where
  log : new.log = old.log ++ events
  duplicates : new.duplicates.keys = old.duplicates.keys ++ rejectedKeys events
  size : new.kept.size + new.duplicates.size =
    old.kept.size + old.duplicates.size + entries.length
  promotions : events.filterMap Event.promotion? = entries.flatMap Entry.promotions

namespace Ledger.Logs

variable {a b c : Ledger} {entries entries' : List Entry} {events events' : List Event}

theorem refl (ledger : Ledger) : ledger.Logs ledger [] [] :=
  ⟨by simp, by simp [rejectedKeys], rfl, rfl⟩

theorem trans (h : a.Logs b entries events) (h' : b.Logs c entries' events') :
    a.Logs c (entries ++ entries') (events ++ events') := by
  constructor
  · rw [h'.log, h.log, List.append_assoc]
  · rw [h'.duplicates, h.duplicates, List.append_assoc, rejectedKeys, rejectedKeys, rejectedKeys,
      List.filterMap_append]
  · rw [h'.size, h.size, List.length_append, Nat.add_assoc]
  · rw [List.filterMap_append, h.promotions, h'.promotions, List.flatMap_append]

/-- An event that is about more than one entry adds to the log only. -/
theorem note (h : a.Logs b entries events) {event : Event} (hreach : event.reach ≠ 0) :
    a.Logs (b.note [event]) entries (events ++ [event]) := by
  have hkey : event.rejectedKey? = none := by
    cases event <;> first | rfl | exact absurd rfl hreach
  have hpromotion : event.promotion? = none := by
    cases event <;> first | rfl | exact absurd rfl hreach
  constructor
  · rw [Ledger.note, h.log, List.append_assoc]
  · rw [rejectedKeys, List.filterMap_append, List.filterMap_cons_none hkey, List.filterMap_nil,
      List.append_nil]
    exact h.duplicates
  · exact h.size
  · rw [List.filterMap_append, List.filterMap_cons_none hpromotion, List.filterMap_nil,
      List.append_nil]
    exact h.promotions

/-- An entry leaves its promotions in the log, and its key if it is rejected. -/
theorem record (ledger : Ledger) (entry : Entry) :
    ∃ events, ledger.Logs (ledger.record entry) [entry] events ∧
      ∀ event ∈ events, event.reach = 0 := by
  by_cases hmem : entry.key ∈ ledger.kept.keys
  · refine ⟨entry.promotedEvents ++ [.rejected entry.key], ?_, ?_⟩
    · rw [ledger.record_of_mem hmem]
      constructor
      · rw [List.append_assoc]
      · rw [rejectedKeys, List.filterMap_append, ← rejectedKeys, entry.rejectedKeys_promotedEvents]
        rfl
      · simp [DuplicateKeys.size, Nat.add_assoc]
      · rw [List.filterMap_append, entry.filterMap_promotedEvents]
        simp [Event.promotion?]
    · simp only [List.forall_mem_append, List.forall_mem_singleton]
      exact ⟨entry.reach_promotedEvents, rfl⟩
  · obtain ⟨more, hrecord, hentries⟩ := ledger.record_of_not_mem hmem
    refine ⟨entry.promotedEvents, ?_, entry.reach_promotedEvents⟩
    rw [hrecord]
    constructor
    · rfl
    · rw [entry.rejectedKeys_promotedEvents, List.append_nil]
    · simp [KeyMap.size, hentries, Nat.add_right_comm]
    · simp [entry.filterMap_promotedEvents]

/-- A walk over parts logs what its steps log. What is said of the events of every step holds
of all of them, if it carries over to events in two parts. -/
theorem foldl {α : Type} {step : Ledger → α → Ledger} {generate : α → List Entry}
    (Shape : List Entry → List Event → Prop) (hnil : Shape [] [])
    (happend : ∀ {entries entries' events events'}, Shape entries events →
      Shape entries' events' → Shape (entries ++ entries') (events ++ events'))
    (hstep : ∀ (ledger : Ledger) (x : α), ∃ events,
      ledger.Logs (step ledger x) (generate x) events ∧ Shape (generate x) events)
    (xs : List α) (ledger : Ledger) :
    ∃ events, ledger.Logs (xs.foldl step ledger) (xs.flatMap generate) events ∧
      Shape (xs.flatMap generate) events := by
  induction xs generalizing ledger with
  | nil => exact ⟨[], .refl ledger, hnil⟩
  | cons x xs ih =>
      obtain ⟨events, hlogs, hshape⟩ := hstep ledger x
      obtain ⟨more, hlogs', hshape'⟩ := ih (step ledger x)
      exact ⟨events ++ more, hlogs.trans hlogs', happend hshape hshape'⟩

end Ledger.Logs

/-! ## Sections, modules and packages -/

/-- Events of sections: they count the entries that come in. -/
structure SectionShape (entries : List Entry) (events : List Event) : Prop where
  counts : (events.filterMap Event.sectionCount?).sum = entries.length
  reach : ∀ event ∈ events, event.reach ≤ 1

/-- Events of modules: they count the entries that come in, and module by module the keys
that are rejected. -/
structure ModuleShape (entries : List Entry) (events : List Event) : Prop where
  counts : (events.filterMap Event.sectionCount?).sum = entries.length
  modules : ∀ log, rejectionsByModule 0 (events ++ log) =
    events.filterMap Event.moduleDuplicates? ++ rejectionsByModule 0 log
  duplicates : (events.filterMap Event.moduleDuplicates?).sum = (rejectedKeys events).length
  reach : ∀ event ∈ events, event.reach ≤ 2

section Shapes

variable {entries entries' : List Entry} {events events' : List Event}

theorem SectionShape.nil : SectionShape [] [] :=
  ⟨rfl, by simp⟩

theorem SectionShape.append (h : SectionShape entries events)
    (h' : SectionShape entries' events') :
    SectionShape (entries ++ entries') (events ++ events') := by
  constructor
  · rw [List.filterMap_append, List.sum_append, h.counts, h'.counts, List.length_append]
  · exact List.forall_mem_append.mpr ⟨h.reach, h'.reach⟩

theorem ModuleShape.nil : ModuleShape [] [] :=
  ⟨rfl, fun _ => rfl, rfl, by simp⟩

theorem ModuleShape.append (h : ModuleShape entries events)
    (h' : ModuleShape entries' events') :
    ModuleShape (entries ++ entries') (events ++ events') := by
  constructor
  · rw [List.filterMap_append, List.sum_append, h.counts, h'.counts, List.length_append]
  · intro log
    rw [List.append_assoc, h.modules, h'.modules, List.filterMap_append, List.append_assoc]
  · rw [List.filterMap_append, List.sum_append, h.duplicates, h'.duplicates, rejectedKeys,
      rejectedKeys, rejectedKeys, List.filterMap_append, List.length_append]
  · exact List.forall_mem_append.mpr ⟨h.reach, h'.reach⟩

end Shapes

/-- The event of a section counts the entries of the section. -/
theorem Section.sectionCount?_collectedEvent (kind : CollectionKind) (scope : String)
    (part : Section) :
    (part.collectedEvent kind scope).sectionCount? = some (part.entries kind scope).length := by
  cases kind with
  | fields =>
      simp [collectedEvent, Event.sectionCount?, fieldCount, entries, Element.entries,
        Element.fieldEntries, List.length_flatMap]
  | expressions use =>
      simp [collectedEvent, Event.sectionCount?, entries, Element.entries, List.length_flatMap]

theorem Section.reach_collectedEvent (kind : CollectionKind) (scope : String) (part : Section) :
    (part.collectedEvent kind scope).reach = 1 := by
  cases kind <;> rfl

theorem Section.exists_logs_collectInto (kind : CollectionKind) (scope : String)
    (ledger : Ledger) (part : Section) :
    ∃ events, ledger.Logs (part.collectInto kind scope ledger) (part.entries kind scope) events ∧
      SectionShape (part.entries kind scope) events := by
  have hwalk := Ledger.Logs.foldl (fun _ events => ∀ event ∈ events, event.reach = 0) (by simp)
    (fun h h' => List.forall_mem_append.mpr ⟨h, h'⟩) Ledger.Logs.record
    (part.entries kind scope) ledger
  rw [List.flatMap_singleton'] at hwalk
  obtain ⟨events, hlogs, hreach⟩ := hwalk
  have hevent := part.reach_collectedEvent kind scope
  refine ⟨events ++ [part.collectedEvent kind scope], hlogs.note (by omega), ?_, ?_⟩
  · have hnone : events.filterMap Event.sectionCount? = [] :=
      List.filterMap_eq_nil_iff.mpr fun event h => Event.sectionCount?_of_reach (hreach event h)
    rw [List.filterMap_append, hnone, List.filterMap_cons_some
      (part.sectionCount?_collectedEvent kind scope)]
    simp
  · simp only [List.forall_mem_append, List.forall_mem_singleton]
    exact ⟨fun event h => by simp [hreach event h], Nat.le_of_eq hevent⟩

theorem Module.exists_logs_sections (kind : CollectionKind) (scope : String) (ledger : Ledger)
    (module : Module) :
    ∃ events, ledger.Logs
        (module.sections.foldl (Section.collectInto kind (module.fullName scope)) ledger)
        (module.entries kind scope) events ∧ SectionShape (module.entries kind scope) events :=
  Ledger.Logs.foldl SectionShape .nil .append
    (fun ledger part => part.exists_logs_collectInto kind (module.fullName scope) ledger)
    module.sections ledger

theorem Ledger.Logs.size_duplicates {old new : Ledger} {entries : List Entry}
    {events : List Event} (h : old.Logs new entries events) :
    new.duplicates.size = old.duplicates.size + (rejectedKeys events).length := by
  rw [DuplicateKeys.size, h.duplicates, List.length_append, DuplicateKeys.size]

/-- The event of a module counts the keys rejected since its sections were begun. -/
theorem Module.exists_logs_collectInto (kind : CollectionKind) (scope : String)
    (ledger : Ledger) (module : Module) :
    ∃ events, ledger.Logs (module.collectInto kind scope ledger) (module.entries kind scope)
        events ∧ ModuleShape (module.entries kind scope) events := by
  obtain ⟨events, hlogs, hshape⟩ := module.exists_logs_sections kind scope ledger
  have hnone : events.filterMap Event.moduleDuplicates? = [] :=
    List.filterMap_eq_nil_iff.mpr fun event h =>
      Event.moduleDuplicates?_of_reach (hshape.reach event h)
  let event : Event := .moduleCollected module.name (module.fullName scope) kind
    module.sections.length (rejectedKeys events).length
  have hcollect : module.collectInto kind scope ledger =
      (module.sections.foldl (Section.collectInto kind (module.fullName scope)) ledger).note
        [event] := by
    rw [Module.collectInto, hlogs.size_duplicates, Nat.add_sub_cancel_left]
  have hrejected : rejectedKeys (events ++ [event]) = rejectedKeys events := by
    rw [rejectedKeys, List.filterMap_append, ← rejectedKeys]
    exact List.append_nil _
  have hcounts : (events ++ [event]).filterMap Event.moduleDuplicates? =
      [(rejectedKeys events).length] := by
    rw [List.filterMap_append, hnone]
    rfl
  refine ⟨events ++ [event], hcollect ▸ hlogs.note (Nat.succ_ne_zero 1), ?_, ?_, ?_, ?_⟩
  · rw [List.filterMap_append, List.sum_append, hshape.counts]
    rfl
  · intro log
    rw [hcounts, List.append_assoc, rejectionsByModule_append hshape.reach, Nat.zero_add]
    rfl
  · rw [hcounts, hrejected, List.sum_singleton]
  · simp only [List.forall_mem_append, List.forall_mem_singleton]
    exact ⟨fun event h => Nat.le_succ_of_le (hshape.reach event h), Nat.le_refl 2⟩

theorem Package.exists_logs_modules (kind : CollectionKind) (package : Package) :
    ∃ events, Ledger.empty.Logs
        (package.modules.foldl (Module.collectInto kind package.name.text) .empty)
        (package.entries kind) events ∧ ModuleShape (package.entries kind) events :=
  Ledger.Logs.foldl ModuleShape .nil .append
    (fun ledger module => module.exists_logs_collectInto kind package.name.text ledger)
    package.modules .empty

/-! ## Promotions -/

/-- The promotions that a declaration calls for in one pass: those of its template, in the
passes that resolve templates. -/
def Declaration.promotions (kind : CollectionKind) (declaration : Declaration) : List Promotion :=
  match kind with
  | .fields => []
  | .expressions use => (declaration.resolved use).promotions

theorem Declaration.flatMap_promotions_entries (kind : CollectionKind)
    (declaration : Declaration) :
    (declaration.element.entries kind declaration.scope declaration.part).flatMap
      Entry.promotions = declaration.promotions kind := by
  cases kind with
  | fields =>
      simp [Element.entries, Element.fieldEntries, promotions, List.flatMap_map]
  | expressions use =>
      simp [Element.entries, Element.commandEntry, promotions, resolved, key]

theorem Module.flatMap_promotions_entries (kind : CollectionKind) (scope : String)
    (module : Module) :
    (module.entries kind scope).flatMap Entry.promotions =
      (module.declarations scope).flatMap (Declaration.promotions kind) := by
  simp only [entries, Section.entries, declarations, Section.declarations, List.flatMap_assoc,
    List.flatMap_map, ← Declaration.flatMap_promotions_entries]

theorem Package.flatMap_promotions_entries (kind : CollectionKind) (package : Package) :
    (package.entries kind).flatMap Entry.promotions =
      package.declarations.flatMap (Declaration.promotions kind) := by
  simp only [entries, declarations, List.flatMap_assoc, Module.flatMap_promotions_entries]

/-- The promotions that the templates of declarations call for, first those of the install
commands, then those of the uninstall commands. -/
def templatePromotions (declarations : List Declaration) : List Promotion :=
  declarations.flatMap (Declaration.promotions (.expressions .install)) ++
    declarations.flatMap (Declaration.promotions (.expressions .uninstall))

theorem mem_templatePromotions {declarations : List Declaration} {p : Promotion} :
    p ∈ templatePromotions declarations ↔
      ∃ declaration ∈ declarations, ∃ use, p ∈ (declaration.resolved use).promotions := by
  rw [templatePromotions, List.mem_append, List.mem_flatMap, List.mem_flatMap]
  constructor
  · rintro (⟨declaration, hd, hp⟩ | ⟨declaration, hd, hp⟩)
    · exact ⟨declaration, hd, .install, hp⟩
    · exact ⟨declaration, hd, .uninstall, hp⟩
  · rintro ⟨declaration, hd, _ | _, hp⟩
    · exact Or.inl ⟨declaration, hd, hp⟩
    · exact Or.inr ⟨declaration, hd, hp⟩

/-! ## Results -/

/-- A log that accounts for what a collection returns: the keys it shows as rejected are the
duplicates, its counts agree with them and with the size of the map, and its promotions
are the given ones. -/
structure Collected.AccountedBy (returned : Collected) (log : List Event)
    (promotions : List Promotion) : Prop where
  rejected : rejectedKeys log = returned.duplicates.keys
  modules : log.filterMap Event.moduleDuplicates? = rejectionsByModule 0 log
  modules_sum : (log.filterMap Event.moduleDuplicates?).sum = returned.duplicates.size
  sections_sum : (log.filterMap Event.sectionCount?).sum =
    returned.kept.size + returned.duplicates.size
  package : log.filterMap Event.packageEntries? = [returned.kept.size]
  promotions : log.filterMap Event.promotion? = promotions

theorem Package.collect_accountedBy (kind : CollectionKind) (package : Package) :
    Collected.AccountedBy (package.collect kind).result (package.collect kind).log
      (package.declarations.flatMap (Declaration.promotions kind)) := by
  obtain ⟨events, hlogs, hshape⟩ := package.exists_logs_modules kind
  let filled := package.modules.foldl (Module.collectInto kind package.name.text) .empty
  let event : Event := .packageCollected package.name kind package.modules.length filled.kept.size
  have hlog : (package.collect kind).log = events ++ [event] := by
    rw [Package.collect, Ledger.note, hlogs.log]
    rfl
  have hkept : Collected.kept (package.collect kind).result = filled.kept :=
    Ledger.kept_result _
  have hduplicates : Collected.duplicates (package.collect kind).result = filled.duplicates :=
    Ledger.duplicates_result _
  have hrejected : rejectedKeys events = filled.duplicates.keys := hlogs.duplicates.symm
  have hnone : events.filterMap Event.packageEntries? = [] :=
    List.filterMap_eq_nil_iff.mpr fun event h =>
      Event.packageEntries?_of_reach (hshape.reach event h)
  have hmodules : (events ++ [event]).filterMap Event.moduleDuplicates? =
      events.filterMap Event.moduleDuplicates? := by
    rw [List.filterMap_append]
    exact List.append_nil _
  rw [hlog]
  constructor
  · rw [rejectedKeys, List.filterMap_append, ← rejectedKeys, hrejected, hduplicates]
    exact List.append_nil _
  · rw [hmodules, hshape.modules]
    exact (List.append_nil _).symm
  · rw [hmodules, hshape.duplicates, hrejected, hduplicates]
    rfl
  · have hsize : filled.kept.size + filled.duplicates.size =
        0 + 0 + (package.entries kind).length := hlogs.size
    rw [List.filterMap_append, List.sum_append, hshape.counts, hkept, hduplicates, hsize,
      Nat.zero_add]
    rfl
  · rw [List.filterMap_append, hnone, hkept]
    rfl
  · rw [← Package.flatMap_promotions_entries, ← hlogs.promotions, List.filterMap_append]
    exact List.append_nil _

/-! ## Compilations -/

/-- The event on the outcome of a compilation: the sizes of the maps, or the numbers of
duplicates. -/
def Compilation.outcomeEvent (unit : String) (compilation : Compilation) : Event :=
  match compilation.result with
  | .ok set => .compiled unit set.fields.size set.install.size set.uninstall.size
  | .error error => .compilationFailed unit error.fieldDuplicates.size
      error.installDuplicates.size error.uninstallDuplicates.size

/-- A compilation that logs its passes over fields, install commands and uninstall commands,
then its outcome, and the outcome nowhere else. -/
structure Compilation.LogsPasses (compilation : Compilation) (unit : String)
    (pass : CollectionKind → Ledger) : Prop where
  log : compilation.log = (pass .fields).log ++ (pass (.expressions .install)).log ++
    (pass (.expressions .uninstall)).log ++ [compilation.outcomeEvent unit]
  outcome : compilation.log.filter Event.isOutcome = [compilation.outcomeEvent unit]

theorem compilePasses_log (unit : String) (pass : CollectionKind → Ledger) :
    (compilePasses unit pass).log = (pass .fields).log ++ (pass (.expressions .install)).log ++
      (pass (.expressions .uninstall)).log ++
      [(compilePasses unit pass).outcomeEvent unit] := by
  by_cases hempty : ((pass .fields).duplicates.isEmpty &&
      (pass (.expressions .install)).duplicates.isEmpty &&
      (pass (.expressions .uninstall)).duplicates.isEmpty) = true
  · rw [compilePasses, if_pos hempty]
    rfl
  · rw [compilePasses, if_neg hempty]
    rfl

theorem Compilation.isOutcome_outcomeEvent (unit : String) (compilation : Compilation) :
    (compilation.outcomeEvent unit).isOutcome = true := by
  rw [outcomeEvent]
  split <;> rfl

theorem compilePasses_logsPasses (unit : String) {pass : CollectionKind → Ledger}
    (hpass : ∀ kind, ∀ event ∈ (pass kind).log, event.reach ≤ 3) :
    (compilePasses unit pass).LogsPasses unit pass := by
  have hnone : ∀ kind, (pass kind).log.filter Event.isOutcome = [] := fun kind =>
    List.filter_eq_nil_iff.mpr fun event h => by
      simp [Event.isOutcome_of_reach (hpass kind event h)]
  refine ⟨compilePasses_log unit pass, ?_⟩
  rw [compilePasses_log, List.filter_append, List.filter_append, List.filter_append, hnone, hnone,
    hnone, List.filter_cons_of_pos (Compilation.isOutcome_outcomeEvent _ _)]
  rfl

theorem Module.reach_collect (kind : CollectionKind) (scope : String) (module : Module) :
    ∀ event ∈ (module.collect kind scope).log, event.reach ≤ 3 := by
  obtain ⟨events, hlogs, hshape⟩ := module.exists_logs_collectInto kind scope .empty
  rw [Module.collect, hlogs.log]
  exact fun event h => Nat.le_succ_of_le (hshape.reach event h)

theorem Package.reach_collect (kind : CollectionKind) (package : Package) :
    ∀ event ∈ (package.collect kind).log, event.reach ≤ 3 := by
  obtain ⟨events, hlogs, hshape⟩ := package.exists_logs_modules kind
  rw [Package.collect, Ledger.note, hlogs.log, Ledger.empty, List.nil_append]
  simp only [List.forall_mem_append, List.forall_mem_singleton]
  exact ⟨fun event h => Nat.le_succ_of_le (hshape.reach event h), Nat.le_refl 3⟩

/-- The promotions that a compilation makes, as its log shows them. -/
def Compilation.promotions (compilation : Compilation) : List Promotion :=
  compilation.log.filterMap Event.promotion?

/-- The passes over commands make the promotions of a compilation. The pass over fields and
the outcome show none. -/
theorem compilePasses_promotions (unit : String) {pass : CollectionKind → Ledger}
    {declarations : List Declaration}
    (hpass : ∀ kind, (pass kind).log.filterMap Event.promotion? =
      declarations.flatMap (Declaration.promotions kind)) :
    (compilePasses unit pass).promotions = templatePromotions declarations := by
  have hfields : declarations.flatMap (Declaration.promotions .fields) = [] :=
    List.flatMap_eq_nil_iff.mpr fun _ _ => rfl
  have houtcome : ((compilePasses unit pass).outcomeEvent unit).promotion? = none := by
    rw [Compilation.outcomeEvent]
    split <;> rfl
  rw [Compilation.promotions, compilePasses_log, List.filterMap_append, List.filterMap_append,
    List.filterMap_append, hpass, hpass, hpass, hfields, List.filterMap_cons_none houtcome,
    List.filterMap_nil, List.append_nil, List.nil_append]
  rfl

theorem Module.promotions_collect (kind : CollectionKind) (scope : String) (module : Module) :
    (module.collect kind scope).log.filterMap Event.promotion? =
      (module.declarations scope).flatMap (Declaration.promotions kind) := by
  obtain ⟨events, hlogs, -⟩ := module.exists_logs_collectInto kind scope .empty
  have hlog : (module.collect kind scope).log = events := hlogs.log
  rw [hlog, hlogs.promotions, flatMap_promotions_entries]

theorem Module.promotions_compile (scope : String) (module : Module) :
    (module.compile scope).promotions = templatePromotions (module.declarations scope) :=
  compilePasses_promotions _ fun kind => module.promotions_collect kind scope

theorem Package.promotions_compile (package : Package) :
    package.compile.promotions = templatePromotions package.declarations :=
  compilePasses_promotions _ fun kind => (package.collect_accountedBy kind).promotions

/-- The log accounts for the result: that of a collection for the map and the duplicates that
are returned, and that of a compilation for its passes and its outcome. The duplicates that
the event of a module counts are a difference that never falls below zero. -/
theorem log_accounts :
    (∀ (kind : CollectionKind) (package : Package),
      Collected.AccountedBy (package.collect kind).result (package.collect kind).log
        (package.declarations.flatMap (Declaration.promotions kind))) ∧
    (∀ (kind : CollectionKind) (scope : String) (ledger : Ledger) (module : Module),
      ledger.duplicates.size ≤ (module.sections.foldl
        (Section.collectInto kind (module.fullName scope)) ledger).duplicates.size) ∧
    (∀ package : Package, package.compile.LogsPasses package.name.text fun kind =>
      package.collect kind) ∧
    (∀ (scope : String) (module : Module), (module.compile scope).LogsPasses
      (module.fullName scope) fun kind => module.collect kind scope) := by
  refine ⟨Package.collect_accountedBy, fun kind scope ledger module => ?_, fun package => ?_,
    fun scope module => ?_⟩
  · obtain ⟨events, hlogs, -⟩ := module.exists_logs_sections kind scope ledger
    have hsize := hlogs.size_duplicates
    omega
  · exact compilePasses_logsPasses _ fun kind => package.reach_collect kind
  · exact compilePasses_logsPasses _ fun kind => module.reach_collect kind scope

end DeviceConfig
