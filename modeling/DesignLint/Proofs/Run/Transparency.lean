import Mathlib.Data.List.Nodup
import DesignLint.Proofs.Config.Reading
import DesignLint.Proofs.Json.Reading
import DesignLint.Proofs.Run.Inputs
import DesignLint.Proofs.Token.Lossless

/-! Kept results are used only where they are right. Runs follow one another on the same files, which may change in any
way between them; nobody but a run writes entries. A run that takes over an entry then gives the report that it would
have made, since the run that kept the entry had the same settings and the same files.

The key and the digests say nothing of the libraries that the files are analysed in, and a root that is a file puts it
in another library than a root that is a directory can. So the runs that an entry passes between have to agree on
the libraries. -/
namespace DesignLint

namespace Workspace

variable {w w' : Workspace} {content x : Bytes}

/-- Whether a file holds a content. -/
def Holds (w : Workspace) (content : Bytes) : Prop := ∃ place, (place, .file content) ∈ w.entries

theorem holds_of_entry? {place : List String} (there : w.entry? place = some (.file content)) : w.Holds content := by
  unfold entry? at there
  split at there
  · cases there
  · obtain ⟨before, after, split, _⟩ := List.lookup_eq_some_iff.mp there
    exact ⟨place, by rw [split]; simp⟩

theorem holds_of_read {path : String} (read : w.read path = .ok content) : w.Holds content := by
  rw [Workspace.read, status] at read
  cases located : w.locate path with
  | error e =>
    rw [located] at read
    cases read
  | ok place =>
    rw [located] at read
    cases there : w.entry? place with
    | none =>
      simp only [bind, Except.bind, there] at read
      cases read
    | some entry =>
      simp only [bind, Except.bind, there] at read
      cases entry with
      | directory => cases read
      | file held =>
        cases read
        exact holds_of_entry? there

theorem holds_put {place : List String} {entry : FileEntry} (held : (w.put place entry).Holds x) :
    entry = .file x ∨ w.Holds x := by
  obtain ⟨there, member⟩ := held
  rcases List.mem_cons.mp member with put | before
  · exact .inl (Prod.mk.inj put).2.symm
  · exact .inr ⟨there, (List.mem_filter.mp before).1⟩

theorem holds_write {path : String} (written : w.write path content = .ok w') (held : w'.Holds x) :
    x = content ∨ w.Holds x := by
  rw [write] at written
  split at written
  · cases written
  · split at written
    · cases written
    · cases written
      rcases holds_put held with put | before
      · exact .inl (FileEntry.file.inj put).symm
      · exact .inr before
    · cases written
    · cases written

theorem holds_makeEach {paths : List String} (held : (w.makeEach paths).1.Holds x) : w.Holds x := by
  induction paths generalizing w with
  | nil => exact held
  | cons path rest ih =>
    rw [makeEach] at held
    split at held
    · exact ih held
    · exact held
    · split at held
      · exact held
      · rcases holds_put (ih held) with put | before
        · cases put
        · exact before

theorem holds_makeDirectories {path : String} (held : (w.makeDirectories path).1.Holds x) : w.Holds x := by
  rw [makeDirectories] at held
  split at held
  · exact held
  · exact holds_makeEach held

end Workspace


theorem ResultCache.holds_replaceIn {w : Workspace} {directory path : String} {content x : Bytes}
    (held : (replaceIn w directory path content).1.Holds x) : x = content ∨ w.Holds x := by
  rw [replaceIn] at held
  have made := @Workspace.holds_makeDirectories w x directory
  generalize w.makeDirectories directory = directories at made held
  obtain ⟨w', fault⟩ := directories
  cases fault with
  | some fault => exact .inr (made held)
  | none =>
    simp only at held
    split at held
    · exact .inr (made held)
    · split at held
      · rename_i written
        rcases Workspace.holds_write written held with put | before
        · exact .inl put
        · exact .inr (made before)
      · exact .inr (made held)

theorem ResultCache.holds_save {w : Workspace} {cache : ResultCache} {report : LintReport} {x : Bytes}
    (held : (cache.save w report).1.Holds x) :
    x = CacheEntry.written ⟨cache.key, cache.digests, report⟩ ∨ w.Holds x := by
  rw [save] at held
  exact holds_replaceIn held

theorem ResultCache.read_of_load {w : Workspace} {cache : ResultCache} {entry : CacheEntry}
    (loaded : cache.load w = .ok (some entry)) :
    ∃ text, w.read cache.path = .ok text ∧ CacheEntry.ofText text = .ok (some entry) := by
  rw [load] at loaded
  split at loaded
  · rename_i text read
    exact ⟨text, read, loaded⟩
  · cases loaded
  · cases loaded

theorem ResultCache.isSorted_digests {w : Workspace} {c : Config} {policyDirectory root : String}
    {files : List ScannedFile} {cache : ResultCache} (prepared : prepare w c policyDirectory root files = .ok cache) :
    cache.digests.IsSorted := by
  rw [prepare] at prepared
  cases digested : files.mapM (digestOf w) with
  | error fault =>
    rw [digested] at prepared
    cases prepared
  | ok digests =>
    rw [digested] at prepared
    cases policy : Policy.version w policyDirectory with
    | error e =>
      rw [policy] at prepared
      cases prepared
    | ok version =>
      rw [policy] at prepared
      cases prepared
      exact Named.isSorted_ofList digests

/-- The configuration with which nothing is kept and nothing that was kept is used. -/
def Config.withoutCache (c : Config) : Config :=
  { c with analysis := { c.analysis with cache := { c.analysis.cache with enabled := some false } } }

/-- One run: what it is given, and the files at that time. -/
structure Occasion where
  environment : Environment
  options : RunOptions
  given : Option Config
  workspace : Workspace

namespace Occasion

variable (o : Occasion)

/-- What the run gives. -/
def outcome : Except RunError LintReport := (Run.execute o.environment o.options o.given o.workspace).1

/-- The files after the run. -/
def after : Workspace := (Run.execute o.environment o.options o.given o.workspace).2.workspace

/-- The files when the run looks for its inputs. A file for events has been made by then. -/
def start : Workspace :=
  match TimingEvent.path? o.environment o.workspace o.options.timing o.options.root with
  | none => o.workspace
  | some path => ((o.workspace.write path []).toOption).getD o.workspace

/-- What the run works on. -/
def inputs : Except RunError Run.Inputs := Run.inputsOf o.environment o.options o.given o.start

/-- The run with the same files and the same settings that neither keeps a result nor uses a kept one. -/
def afresh : Occasion :=
  { o with given :=
      ((Run.configOf o.environment o.options o.given o.start).toOption).map Config.withoutCache }

/-- The kept results that the run looks at. -/
def cache? : Option ResultCache := o.inputs.toOption.bind fun i => i.cache? o.options o.start

/-- The texts of the run whose digests are compared: the settings, and what the files hold. -/
def digested : List Bytes := o.inputs.toOption.elim [] fun i => i.digested o.options o.start

/-- The files of the run with the libraries they are analysed in. -/
def assignment : List (String × String) := o.inputs.toOption.elim [] Run.Inputs.assignment

/-- The entry that the run keeps, unless it accepts one. -/
def keeps? : Option CacheEntry := do
  let cache ← o.cache?
  let report ← o.afresh.outcome.toOption
  return ⟨cache.key, cache.digests, report⟩

/-- Whether one run leaves an entry that another accepts: by the key and by the digests of the files. -/
def Matches (earlier later : Occasion) : Prop :=
  ∃ kept ∈ earlier.cache?, ∃ wanted ∈ later.cache?, kept.key = wanted.key ∧ kept.digests = wanted.digests

theorem outcome_eq : o.outcome = (Run.result o.environment o.options o.given o.start).1 := by
  have body (t : Trace) := ((Run.body_gives o.environment o.options o.given t.workspace).run t rfl).1
  rw [outcome, start, Run.execute]
  generalize TimingEvent.path? o.environment o.workspace o.options.timing o.options.root = path
  cases path with
  | none => exact body _
  | some path =>
    simp only
    generalize o.workspace.write path [] = written
    cases written with
    | error fault => exact body _
    | ok made => exact body _

theorem holds_after {x : Bytes} (held : o.after.Holds x) :
    (∃ events, x = Bytes.ofString (TimingEvent.lines events)) ∨
      (Run.result o.environment o.options o.given o.start).2.Holds x := by
  have body (t : Trace) := ((Run.body_gives o.environment o.options o.given t.workspace).run t rfl).2
  rw [after, Run.execute] at held
  rw [start]
  generalize TimingEvent.path? o.environment o.workspace o.options.timing o.options.root = path at held ⊢
  cases path with
  | none =>
    rw [body] at held
    exact .inr held
  | some path =>
    simp only at held ⊢
    generalize o.workspace.write path [] = written at held ⊢
    cases written with
    | error fault =>
      simp only [body] at held
      exact .inr held
    | ok made =>
      change _ ∨ (Run.result o.environment o.options o.given made).2.Holds x
      simp only at held
      have left := body { workspace := made }
      generalize ((Run.body o.environment o.options o.given).run).run { workspace := made } = ran at held left
      obtain ⟨_, t⟩ := ran
      simp only at held left
      rw [← left]
      cases written : t.workspace.write path (Bytes.ofString (TimingEvent.lines t.events)) with
      | error fault =>
        rw [written] at held
        exact .inr held
      | ok done =>
        rw [written] at held
        rcases Workspace.holds_write written held with events | before
        · exact .inl ⟨_, events⟩
        · exact .inr before

theorem holds_start {x : Bytes} (held : o.start.Holds x) : x = [] ∨ o.workspace.Holds x := by
  rw [start] at held
  split at held
  · exact .inr held
  · rename_i path _
    cases made : o.workspace.write path [] with
    | error fault =>
      rw [made] at held
      exact .inr held
    | ok w =>
      rw [made] at held
      exact Workspace.holds_write made held

theorem afresh_outcome : o.afresh.outcome = o.inputs.bind fun i => i.report o.options o.start := by
  rw [outcome_eq]
  change (Run.result o.environment o.options o.afresh.given o.start).1 = _
  rw [Run.result, inputs, Run.inputsOf, Run.inputsOf, afresh]
  cases config : Run.configOf o.environment o.options o.given o.start with
  | error e =>
    -- a configuration that is given cannot be missing, so the same one is looked for again
    have none_ : o.given = none := by
      cases given : o.given with
      | none => rfl
      | some c =>
        rw [given] at config
        cases config
    rw [none_] at config
    simp only [Except.toOption, Option.map_none, config]
    rfl
  | ok c =>
    have without : Run.configOf o.environment o.options (some c.withoutCache) o.start = .ok c.withoutCache := rfl
    have inputs : Run.inputsFor o.options o.start c.withoutCache =
        (Run.inputsFor o.options o.start c).map fun i => { i with config := i.config.withoutCache } := by
      have rules : c.withoutCache.inferenceRules = c.inferenceRules := rfl
      have files : Scan.files c.withoutCache o.start o.options.root = Scan.files c o.start o.options.root := rfl
      rw [Run.inputsFor, Run.inputsFor, rules, files]
      cases c.inferenceRules with
      | error e => rfl
      | ok rules =>
        cases Scan.files c o.start o.options.root with
        | error fault => rfl
        | ok files => rfl
    simp only [Except.toOption, Option.map_some, without]
    simp only [Except.bind, inputs]
    cases Run.inputsFor o.options o.start c with
    | error e => rfl
    | ok i => rfl

/-- What the run gives: the report that it makes, or that of an entry that it accepts. -/
theorem outcome_cases : o.outcome = o.afresh.outcome ∨
    ∃ i cache entry, o.inputs = .ok i ∧ i.cache? o.options o.start = some cache ∧
      cache.load o.start = .ok (some entry) ∧ cache.accepts entry = true ∧ o.outcome = .ok entry.report := by
  rw [outcome_eq, afresh_outcome, inputs, Run.result]
  cases Run.inputsOf o.environment o.options o.given o.start with
  | error e => exact .inl rfl
  | ok i =>
    simp only [Run.Inputs.result]
    cases accepted : Run.acceptedOf o.start (i.cache? o.options o.start) with
    | none => exact .inl rfl
    | some entry =>
      right
      rw [Run.acceptedOf, Option.filter_eq_some_iff] at accepted
      obtain ⟨found, accepts⟩ := accepted
      cases opened : i.cache? o.options o.start with
      | none =>
        rw [opened] at found
        cases found
      | some cache =>
        rw [opened] at found accepts
        refine ⟨i, cache, entry, rfl, opened, ?_, accepts, rfl⟩
        rw [Run.entryOf, Option.bind_some] at found
        cases loaded : cache.load o.start with
        | error fault =>
          rw [loaded] at found
          cases found
        | ok held =>
          rw [loaded] at found
          exact congrArg Except.ok found

variable {o}

theorem rules_of_inputs {i : Run.Inputs} (found : o.inputs = .ok i) : i.config.inferenceRules = .ok i.rules := by
  rw [inputs, Run.inputsOf] at found
  cases config : Run.configOf o.environment o.options o.given o.start with
  | error e =>
    rw [config] at found
    cases found
  | ok c =>
    rw [config, Except.bind, Run.inputsFor] at found
    split at found
    · cases found
    · cases found
    · rename_i compiled _
      cases found
      exact compiled

theorem keeps?_eq {i : Run.Inputs} (found : o.inputs = .ok i) : o.keeps? = (do
    let cache ← i.cache? o.options o.start
    let report ← (i.report o.options o.start).toOption
    return ⟨cache.key, cache.digests, report⟩) := by
  rw [keeps?, cache?, afresh_outcome, found]
  rfl

/-- Where the entry of a run comes from. -/
theorem of_mem_keeps? {e : CacheEntry} (kept : e ∈ o.keeps?) : ∃ i cache report, o.inputs = .ok i ∧
    i.cache? o.options o.start = some cache ∧ i.report o.options o.start = .ok report ∧
      e = ⟨cache.key, cache.digests, report⟩ := by
  cases found : o.inputs with
  | error e =>
    rw [keeps?, cache?, found] at kept
    cases kept
  | ok i =>
    rw [keeps?_eq found] at kept
    obtain ⟨cache, opened, kept⟩ := Option.bind_eq_some_iff.mp kept
    obtain ⟨report, made, kept⟩ := Option.bind_eq_some_iff.mp kept
    refine ⟨i, cache, report, rfl, opened, ?_, (Option.some.inj kept).symm⟩
    cases outcome : i.report o.options o.start with
    | error e =>
      rw [outcome] at made
      cases made
    | ok report' =>
      rw [outcome] at made
      cases made
      rfl

/-- What the files hold after the run that they did not hold before is the entry that it keeps. -/
theorem holds_result {x : Bytes} (held : (Run.result o.environment o.options o.given o.start).2.Holds x) :
    o.start.Holds x ∨ ∃ e ∈ o.keeps?, x = e.written := by
  rw [Run.result] at held
  cases found : Run.inputsOf o.environment o.options o.given o.start with
  | error e =>
    rw [found] at held
    exact .inl held
  | ok i =>
    rw [found] at held
    simp only [Run.Inputs.result] at held
    rw [keeps?_eq found]
    generalize i.cache? o.options o.start = cache at held ⊢
    generalize i.report o.options o.start = report at held ⊢
    generalize Run.acceptedOf o.start cache = accepted at held
    cases accepted with
    | some entry => exact .inl held
    | none =>
      cases cache with
      | none => exact .inl held
      | some cache =>
        cases report with
        | error e => exact .inl held
        | ok report =>
          simp only [Run.afterReport] at held
          rcases ResultCache.holds_save held with kept | before
          · exact .inr ⟨_, rfl, kept⟩
          · exact .inl before

end Occasion

/-- The members of an event are texts and zeros, none of them under the name of the version of an entry. -/
theorem TimingEvent.members_eq (event : TimingEvent) : ∃ members, event.toJson = .object members ∧ members ≠ [] ∧
    ∀ m ∈ members, m.2.Flat ∧ sameFold "version" m.1 = false := by
  refine ⟨_, rfl, nofun, ?_⟩
  have others : sameFold "version" "phase" = false ∧ sameFold "version" "kind" = false ∧
      sameFold "version" "file" = false ∧ sameFold "version" "status" = false ∧
      sameFold "version" "start_ms" = false ∧ sameFold "version" "duration_ms" = false ∧
      sameFold "version" "end_ms" = false := by decide
  obtain ⟨phase, kind, file, status, start, duration, stop⟩ := others
  simp only [List.forall_mem_append, List.forall_mem_cons]
  refine ⟨⟨⟨⟨⟨.text _, phase⟩, ⟨.text _, kind⟩, nofun⟩, ?_⟩, ?_⟩, ⟨.zero, start⟩, ⟨.zero, duration⟩, ⟨.zero, stop⟩, nofun⟩
  · cases event.file with
    | none => nofun
    | some path => by_cases named : path = "" <;> simp [named, file, Json.Flat.text]
  · by_cases noted : event.status = "" <;> simp [noted, status, Json.Flat.text]

theorem Summary.plain (s : Summary) : s.toJson.Plain := by
  refine .object fun m member => ?_
  obtain ⟨field, _, rfl⟩ := List.mem_map.mp member
  exact .int field.2

theorem Statistics.plain (s : Statistics) : s.toJson.Plain := by
  refine .object fun m member => ?_
  obtain ⟨field, _, rfl⟩ := List.mem_map.mp member
  exact .int field.2

namespace CacheEntry

/-- Whether a text reads as an entry. -/
def IsEntry (text : Bytes) : Prop := ∃ e, ofText text = .ok (some e)

theorem not_isEntry_nil : ¬IsEntry [] := by
  rintro ⟨e, read⟩
  cases read

/-- An object without a version is no entry. -/
theorem not_isEntry_object {text : Bytes} {members : List (String × Json)}
    (read : ∀ value, Json.parse? text = some value → value = .object members)
    (unversioned : ∀ m ∈ members, sameFold "version" m.1 = false) : ¬IsEntry text := by
  rintro ⟨e, entry⟩
  rw [ofText] at entry
  cases parsed : Json.parse? text with
  | none =>
    rw [parsed] at entry
    cases entry
  | some value =>
    cases read value parsed
    have version : Fill.field "version" .integer members = some 0 := by
      rw [Fill.field, List.filter_eq_nil_iff.mpr]
      · rfl
      · intro m member
        rw [unversioned m member]
        decide
    have filled {found : Int} {e : CacheEntry} (read : fill [.object members] = some (found, e)) : found = 0 := by
      have whole : Fill.members [.object members] = some members := by simp [Fill.members]
      rw [fill, Fill.record, whole, Option.bind_some] at read
      simp only [version, Option.bind_eq_bind, Option.bind_some, Option.bind_eq_some_iff] at read
      obtain ⟨_, _, _, _, _, _, made⟩ := read
      exact (Prod.mk.inj (Option.some.inj made)).1.symm
    rw [parsed, Option.bind_some] at entry
    cases read : fill [.object members] with
    | none =>
      rw [read] at entry
      cases entry
    | some found =>
      obtain ⟨found, e'⟩ := found
      cases filled read
      rw [read] at entry
      cases entry

/-- The events of a run are no entry. -/
theorem not_isEntry_lines (events : List TimingEvent) : ¬IsEntry (Bytes.ofString (TimingEvent.lines events)) := by
  cases events with
  | nil =>
    have empty : Bytes.ofString (TimingEvent.lines []) = [] := by decide
    rw [empty]
    exact not_isEntry_nil
  | cons event others =>
    obtain ⟨members, object, some_, each⟩ := event.members_eq
    refine not_isEntry_object (fun value read => ?_) fun m member => (each m member).2
    have written : Bytes.ofString (TimingEvent.lines (event :: others)) =
        Json.encoded (Json.object members).compact.toList ++ Bytes.ofString ("\n" ++ TimingEvent.lines others) := by
      rw [TimingEvent.lines, List.map_cons, String.join_cons, object, String.append_assoc, Bytes.ofString_eq,
        Bytes.ofString_eq, String.toList_append, List.flatMap_append]
      rfl
    rw [written] at read
    exact Json.parse?_object some_ (fun m member => (each m member).1) read

/-- An entry reads back as what was kept, if its report does. -/
theorem ofText_written {e : CacheEntry} (plain : e.report.toJson.Plain) (shallow : e.report.toJson.nestsWithin 9999 = true)
    (report : Fill.report [e.report.toJson] = some e.report) (sorted : e.digests.IsSorted) :
    ofText e.written = .ok (some e) := by
  have digests : (Json.object (e.digests.map fun f => (f.1, .ofString f.2))).Plain := by
    refine .object fun m member => ?_
    obtain ⟨f, _, rfl⟩ := List.mem_map.mp member
    exact .text f.2
  have whole : e.toJson.Plain := by
    refine .object ?_
    simp only [List.forall_mem_cons]
    exact ⟨.int _, .text _, digests, plain, nofun⟩
  have nests : e.toJson.nestsWithin Json.maxNesting = true := by
    refine Json.nestsWithin_object.mpr ?_
    simp only [List.forall_mem_cons]
    refine ⟨rfl, rfl, Json.nestsWithin_object.mpr fun m member => ?_, shallow, nofun⟩
    obtain ⟨f, _, rfl⟩ := List.mem_map.mp member
    rfl
  have names : Fill.named Fill.text [.object (e.digests.map fun f => (f.1, .ofString f.2))] = some e.digests := by
    have read : ((e.digests.map fun f => (f.1, Json.ofString f.2)).mapM fun m => (Fill.text [m.2]).map (Prod.mk m.1)) =
        some e.digests := by
      have each : ((fun m : String × Json => (Fill.text [m.2]).map (Prod.mk m.1)) ∘ fun f : String × String =>
          (f.1, Json.ofString f.2)) = fun f => (pure (id f) : Option _) := by
        funext f
        rw [Function.comp_apply, Fill.text_ofString, Option.map_some]
        rfl
      rw [List.mapM_map, each, List.mapM_pure, List.map_id]
      rfl
    rw [Fill.named, Fill.named?_object read, Named.ofList_of_isSorted sorted]
    rfl
  have filled : fill [e.toJson] = some (version, e) := by
    have stated : Stated [("version", some (Json.ofInt version)), ("key", some (.ofString e.key)),
        ("files", some (.object (e.digests.map fun f => (f.1, .ofString f.2)))), ("result", some e.report.toJson)]
        [("version", .ofInt version), ("key", .ofString e.key),
          ("files", .object (e.digests.map fun f => (f.1, .ofString f.2))), ("result", e.report.toJson)] := .refl _
    have field {α : Type} {name : String} {value : Option Json} (listed : (name, value) ∈ _) (fill : Fill α) :=
      Fill.field_stated stated (show areTold ["version", "key", "files", "result"] = true by decide) listed fill
    have version_ : Fill.integer [.ofInt version] = some version := by decide
    rw [fill, toJson, Fill.record_object, field (.head _), field (.tail _ (.head _)),
      field (.tail _ (.tail _ (.head _))), field (.tail _ (.tail _ (.tail _ (.head _))))]
    simp only [Option.toList_some, version_, Fill.text_ofString, names, report]
    rfl
  rw [ofText, written, Json.parse?_pretty whole nests, Option.bind_some, filled]
  rfl

end CacheEntry

/-- Runs on the same files, the last first, and the files after them. Between runs the files may change in any way,
but only a run makes entries. -/
inductive History : List Occasion → Workspace → Prop
  | start {w : Workspace} (bare : ∀ text, w.Holds text → ¬CacheEntry.IsEntry text) : History [] w
  | edit {past : List Occasion} {w w' : Workspace} (history : History past w)
    (kept : ∀ text, w'.Holds text → CacheEntry.IsEntry text → w.Holds text) : History past w'
  | run {past : List Occasion} (o : Occasion) (history : History past o.workspace) : History (o :: past) o.after

/-- Every entry that the files hold was kept by a run. -/
theorem History.kept {past : List Occasion} {w : Workspace} (history : History past w) {text : Bytes}
    (held : w.Holds text) (entry : CacheEntry.IsEntry text) : ∃ o ∈ past, ∃ e ∈ o.keeps?, text = e.written := by
  induction history with
  | start bare => exact absurd entry (bare text held)
  | edit history kept ih => exact ih (kept text held entry)
  | @run past o history ih =>
    have earlier (before : o.workspace.Holds text) : ∃ o' ∈ o :: past, ∃ e ∈ o'.keeps?, text = e.written := by
      obtain ⟨o', member, kept⟩ := ih before
      exact ⟨o', List.mem_cons_of_mem _ member, kept⟩
    rcases o.holds_after held with ⟨events, rfl⟩ | held
    · exact absurd entry (CacheEntry.not_isEntry_lines events)
    · rcases Occasion.holds_result held with held | kept
      · rcases o.holds_start held with rfl | before
        · exact absurd entry CacheEntry.not_isEntry_nil
        · exact earlier before
      · exact ⟨o, List.mem_cons_self, kept⟩

/-- A run gives what it would give without kept results. -/
theorem kept_results_change_nothing {past : List Occasion} {now : Occasion} (history : History past now.workspace)
    (apart : Sha256.Separates ((now :: past).flatMap Occasion.digested))
    (readBack : ∀ o ∈ past, ∀ e ∈ o.keeps?, CacheEntry.ofText e.written = .ok (some e))
    (agreed : ∀ o ∈ past, o.Matches now → o.assignment = now.assignment) :
    now.outcome = now.afresh.outcome := by
  rcases now.outcome_cases with same | ⟨i, cache, entry, found, opened, loaded, accepted, outcome⟩
  · exact same
  obtain ⟨text, read, entryRead⟩ := ResultCache.read_of_load loaded
  have isEntry : CacheEntry.IsEntry text := ⟨entry, entryRead⟩
  have held : now.workspace.Holds text := by
    rcases now.holds_start (Workspace.holds_of_read read) with rfl | held
    · exact absurd isEntry CacheEntry.not_isEntry_nil
    · exact held
  obtain ⟨o, member, e, kept, rfl⟩ := history.kept held isEntry
  rw [readBack o member e kept] at entryRead
  cases entryRead
  obtain ⟨i', cache', report, found', opened', made, rfl⟩ := Occasion.of_mem_keeps? kept
  rw [ResultCache.accepts, Bool.and_eq_true, beq_iff_eq, beq_iff_eq] at accepted
  obtain ⟨keys, digests⟩ := accepted
  have caches {o : Occasion} {i : Run.Inputs} (found : o.inputs = .ok i) :
      o.cache? = i.cache? o.options o.start ∧ o.assignment = i.assignment ∧ o.digested = i.digested o.options o.start := by
    rw [Occasion.cache?, Occasion.assignment, Occasion.digested, found]
    exact ⟨rfl, rfl, rfl⟩
  obtain ⟨looked, assigned, texts⟩ := caches found
  obtain ⟨looked', assigned', texts'⟩ := caches found'
  have assignments : i.assignment = i'.assignment := by
    rw [← assigned, ← assigned']
    exact (agreed o member ⟨cache', looked'.trans opened', cache, looked.trans opened, keys, digests⟩).symm
  have separated : Sha256.Separates (i.digested now.options now.start ++ i'.digested o.options o.start) := by
    rw [← texts, ← texts']
    refine apart.mono (List.append_subset.mpr ⟨List.subset_append_left _ _, fun text inside => ?_⟩)
    exact List.mem_append_right _ (List.mem_flatMap.mpr ⟨o, member, inside⟩)
  have report_eq := Run.Inputs.report_eq separated (Occasion.rules_of_inputs found) (Occasion.rules_of_inputs found') opened opened'
    keys.symm digests.symm assignments made
  rw [outcome, now.afresh_outcome, found]
  exact report_eq.symm

namespace Occasion

/-- A run on one file, which is no design file. -/
def sample : Occasion where
  environment := {}
  options := { root := "." }
  given := some {}
  workspace := { entries := [(["a.vhd"], .file (Bytes.ofString "x"))] }

/-- The same run once more, on the files that the first one left. -/
def repeated : Occasion := { sample with workspace := sample.after }

/-- What a kept result is accepted by, and the libraries. -/
def basis (o : Occasion) : List (String × String) × List Bytes × Option (String × Named String) :=
  (o.assignment, o.digested, o.cache?.map fun cache => (cache.key, cache.digests))

/-- With one file, what a kept result is accepted by is made from the settings and from what the file holds. -/
theorem basis_eq {o : Occasion} {c : Config} {f : ScannedFile} {content : Bytes} (given : o.given = some c)
    (ownPolicy : o.options.policyDirectory = "") (files : Scan.files c o.start o.options.root = .ok [f])
    (read : o.start.read f.path = .ok content) :
    o.basis = match c.inferenceRules with
      | .error _ => ([], [], none)
      | .ok _ => ([(f.path, f.library)],
          [Bytes.ofString (ResultCache.settings c [f] Policy.builtInVersion).compact, content],
          if c.cacheEnabled then
            some (ResultCache.keyOf c [f] Policy.builtInVersion, Named.ofList [(f.path, Sha256.digest content)])
          else none) := by
  have version : Policy.version o.start o.options.policyDirectory = .ok Policy.builtInVersion := by
    rw [Policy.version, if_pos ownPolicy]
  have content_eq : o.start.contentAt f.path = content := by
    rw [Workspace.contentAt, read]
    rfl
  rw [basis, assignment, digested, cache?, inputs, Run.inputsOf, given]
  simp only [Run.configOf, Except.bind, Run.inputsFor, files]
  cases c.inferenceRules with
  | error e => rfl
  | ok rules =>
    have digests : [f].mapM (ResultCache.digestOf o.start) = .ok [(f.path, Sha256.digest content)] := by
      rw [List.mapM_cons, ResultCache.digestOf, read]
      rfl
    simp only [Except.toOption, Option.elim_some, Option.bind_some, Run.Inputs.cache?, Run.cacheOf, Run.Inputs.digested,
      Run.Inputs.assignment, version, ResultCache.prepare, digests, List.map_cons, List.map_nil, content_eq]
    cases c.cacheEnabled <;> rfl

/-- What is kept of the run: the file cannot be read. -/
def sampleReport : LintReport where
  findings := some []
  failures := some [⟨"a.vhd", "parse", Bytes.ofString "a.vhd:1:1: expected a design unit, found \"x\""⟩]
  statistics := { files := 1 }
  files := some []

/-- What the two runs come to. The file that the first one leaves is not taken for a design file. -/
theorem sample_made :
    ((Scan.files {} sample.start sample.options.root).toOption = some [⟨"a.vhd", "work", false⟩] ∧
      (sample.start.read "a.vhd").toOption = some (Bytes.ofString "x")) ∧
    ((Scan.files {} repeated.start repeated.options.root).toOption = some [⟨"a.vhd", "work", false⟩] ∧
      (repeated.start.read "a.vhd").toOption = some (Bytes.ofString "x")) ∧
    sample.cache?.isSome ∧ (sample.digested.map Sha256.digest).Nodup ∧
    sample.afresh.outcome.toOption = some sampleReport ∧ sampleReport.toJson.nestsWithin 9999 = true ∧
    Fill.report [sampleReport.toJson] = some sampleReport := by
  refine ⟨⟨?_, ?_⟩, ⟨?_, ?_⟩, ?_, ?_, ?_, ?_, ?_⟩ <;> decide +kernel

theorem basis_repeated : repeated.basis = sample.basis := by
  obtain ⟨⟨files', read'⟩, ⟨files, read⟩, _⟩ := sample_made
  rw [basis_eq rfl rfl (eq_ok_of_toOption files) (eq_ok_of_toOption read),
    basis_eq rfl rfl (eq_ok_of_toOption files') (eq_ok_of_toOption read')]

theorem readBack_sample : ∀ e ∈ sample.keeps?, CacheEntry.ofText e.written = .ok (some e) := by
  intro e kept
  have plain : sampleReport.toJson.Plain := by
    have failure : (Json.object [("file", .ofString "a.vhd"), ("kind", .ofString "parse"), ("message", .ofString
        "a.vhd:1:1: expected a design unit, found \"x\"")]).Plain := by
      refine .object ?_
      simp only [List.forall_mem_cons]
      exact ⟨.text _, .text _, .text _, nofun⟩
    refine .object ?_
    simp only [List.forall_mem_cons]
    exact ⟨.array nofun, .array (List.forall_mem_singleton.mpr failure), Summary.plain _, Statistics.plain _,
      .array nofun, nofun⟩
  obtain ⟨i, cache, report, inputs, opened, made, rfl⟩ := of_mem_keeps? kept
  obtain ⟨_, _, _, _, outcome, shallow, filled⟩ := sample_made
  rw [afresh_outcome, inputs] at outcome
  cases made.symm.trans (eq_ok_of_toOption outcome)
  exact CacheEntry.ofText_written plain shallow filled (ResultCache.isSorted_digests (Run.prepared_of_cacheOf opened))

theorem matches_of_basis {o o' : Occasion} (same : o'.basis = o.basis) (opened : o.cache?.isSome) : o.Matches o' := by
  obtain ⟨kept, found⟩ := Option.isSome_iff_exists.mp opened
  have caches := (Prod.mk.inj (Prod.mk.inj same).2).2
  rw [found, Option.map_some, Option.map_eq_some_iff] at caches
  obtain ⟨wanted, found', pair⟩ := caches
  obtain ⟨keys, digests⟩ := Prod.mk.inj pair
  exact ⟨kept, found, wanted, found', keys.symm, digests.symm⟩

end Occasion

theorem Sha256.separates_of_nodup {texts : List Bytes} (nodup : (texts.map digest).Nodup) : Separates texts :=
  fun _ first _ second same => List.inj_on_of_nodup_map nodup first second same

open Occasion in
theorem kept_results_change_nothing_repeated :
    sample.Matches repeated ∧ repeated.outcome = repeated.afresh.outcome := by
  obtain ⟨_, _, opened, distinct, _⟩ := sample_made
  have matching : sample.Matches repeated := matches_of_basis basis_repeated opened
  have assigned : repeated.assignment = sample.assignment := congrArg Prod.fst basis_repeated
  have texts : repeated.digested = sample.digested := congrArg (fun basis => basis.2.1) basis_repeated
  refine ⟨matching, kept_results_change_nothing (.run sample (.start ?_)) ?_ ?_ ?_⟩
  · rintro text ⟨place, member⟩ ⟨e, entry⟩
    obtain ⟨rfl, same⟩ := Prod.mk.inj (List.mem_singleton.mp member)
    cases same
    have none_ : (CacheEntry.ofText (Bytes.ofString "x")).toOption = none := by decide
    rw [entry] at none_
    cases none_
  · have twice : [repeated, sample].flatMap digested = sample.digested ++ sample.digested := by
      rw [List.flatMap_cons, List.flatMap_singleton, texts]
    rw [twice]
    exact (Sha256.separates_of_nodup distinct).mono (List.append_subset.mpr ⟨fun _ => id, fun _ => id⟩)
  · intro o member e kept
    obtain rfl := List.mem_singleton.mp member
    exact readBack_sample e kept
  · intro o member _
    obtain rfl := List.mem_singleton.mp member
    exact assigned.symm

end DesignLint
