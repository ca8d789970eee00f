import DesignLint.Proofs.Report.Severity
import DesignLint.Proofs.Tree.Export

/-! Reports keep their contract. Each part of a report is a record with exactly the members that the contract
names, so a part fits as soon as each of its members does. -/
namespace DesignLint

open Json

namespace Json

theorem find?_of_nodup {fields : List Field} (distinct : (fields.map Field.name).Nodup) {f : Field} (listed : f ∈ fields) :
    fields.find? (fun g => g.name == f.name) = some f := by
  induction fields with
  | nil => contradiction
  | cons g fields ih =>
    obtain ⟨new, distinct⟩ := List.nodup_cons.mp distinct
    rcases List.mem_cons.mp listed with rfl | later
    · rw [List.find?_cons_of_pos (by simp)]
    · have other : g.name ≠ f.name := fun same => new (same ▸ List.mem_map_of_mem later)
      rw [List.find?_cons_of_neg (by simpa using other)]
      exact ih distinct later

/-- A record of exactly the members that are named fits if each of them does. -/
theorem fits_record_of_parts (parts : List (Field × Json)) (apart : areApart (parts.map fun p => p.1.name) = true)
    (each : ∀ p ∈ parts, p.2.Fits p.1.shape) :
    (object (parts.map fun p => (p.1.name, p.2))).Fits (Shape.record false (parts.map Prod.fst)) := by
  rw [areApart, Bool.and_eq_true, decide_eq_true_iff, List.all_eq_true] at apart
  obtain ⟨distinct, ascii⟩ := apart
  have named : NamedApart (parts.map fun p => (p.1.name, p.2)) := by
    refine ⟨fun m member => ?_, by simpa [Function.comp_def] using distinct⟩
    obtain ⟨p, listed, rfl⟩ := List.mem_map.mp member
    rw [composed, if_pos (ascii p.1.name (List.mem_map_of_mem listed))]
  refine named.fits_record (fun m member => ?_) fun f field _ => ?_
  · obtain ⟨p, listed, rfl⟩ := List.mem_map.mp member
    refine fits_allows_known (f := p.1) (find?_of_nodup ?_ (List.mem_map_of_mem listed)) (each p listed)
    simpa [Function.comp_def] using distinct
  · obtain ⟨p, listed, rfl⟩ := List.mem_map.mp field
    rw [List.map_map]
    exact List.mem_map_of_mem listed

theorem fits_ofInt {n : Int} (nonneg : 0 ≤ n) : (ofInt n).Fits Shape.natural := by
  obtain ⟨n, rfl⟩ := Int.eq_ofNat_of_zero_le nonneg
  exact fits_natural n

theorem fits_ofString {shape : Shape} {s : String} (holds : shape (.text s) = true) : (ofString s).Fits shape :=
  fits_string (by rwa [Bytes.decode_ofString])

theorem fits_filledText {s : String} (filled : s ≠ "") : (ofString s).Fits Shape.filledText :=
  fits_ofString (by simpa [Shape.filledText, Shape.textWith] using filled)

theorem fits_oneOf {s : String} {words : List String} (member : s ∈ words) : (ofString s).Fits (Shape.oneOf words) :=
  fits_ofString (by simpa [Shape.oneOf, Shape.textWith] using member)

theorem fits_filledMessage {text : Bytes} (filled : text ≠ []) : (string text).Fits Shape.filledText :=
  fits_string (by simpa [Shape.filledText, Shape.textWith] using Bytes.decode_ne_empty filled)

/-- Counts fit if they are natural numbers. -/
theorem fits_counts (fields : List (String × Int)) (apart : areApart (fields.map Prod.fst) = true)
    (nonneg : ∀ f ∈ fields, 0 ≤ f.2) :
    (object (fields.map fun (name, n) => (name, ofInt n))).Fits
      (Shape.record false (Contract.counts (fields.map Prod.fst))) := by
  have each : ∀ p ∈ fields.map fun f => (Field.needed f.1 .natural, ofInt f.2), p.2.Fits p.1.shape := by
    intro p member
    obtain ⟨f, listed, rfl⟩ := List.mem_map.mp member
    exact fits_ofInt (nonneg f listed)
  have fits := fits_record_of_parts _ (by simpa [Function.comp_def, Field.needed] using apart) each
  simpa [Contract.counts, Function.comp_def, Field.needed] using fits

end Json

/-- What a reported finding has to say. -/
structure Diagnostic.IsReportable (d : Diagnostic) : Prop where
  rule : d.rule ≠ ""
  severity : d.severity ∈ countedSeverities
  message : d.message ≠ []
  file : d.file ≠ ""
  range : ∃ line character line' character' : Nat, d.range = ⟨⟨line, character⟩, ⟨line', character'⟩⟩

/-- What a reported failure has to say. -/
structure FailedFile.IsReportable (f : FailedFile) : Prop where
  file : f.file ≠ ""
  kind : f.kind ∈ [FailureKind.parse.word, FailureKind.analysis.word]
  message : f.message ≠ []

theorem Diagnostic.fits_toJson {d : Diagnostic} (reportable : d.IsReportable) : d.toJson.Fits Contract.finding := by
  obtain ⟨line, character, line', character', same⟩ := reportable.range
  have span := (Span.fits_toJson (s := d.range) (congrArg Span.start same) (congrArg Span.stop same)).1
  refine fits_record_of_parts
    [(.needed "rule" .filledText, .ofString d.rule), (.needed "severity" (.oneOf countedSeverities), .ofString d.severity),
      (.needed "message" .filledText, .string d.message), (.needed "file" .filledText, .ofString d.file),
      (.needed "range" Contract.span, d.range.toJson)] (by simp only [List.map_cons, List.map_nil]; decide) ?_
  simp only [List.forall_mem_cons, List.not_mem_nil, false_implies, implies_true, and_true]
  exact ⟨fits_filledText reportable.rule, fits_oneOf reportable.severity, fits_filledMessage reportable.message,
    fits_filledText reportable.file, span⟩

theorem FailedFile.fits_toJson {f : FailedFile} (reportable : f.IsReportable) : f.toJson.Fits Contract.fileError := by
  refine fits_record_of_parts
    [(.needed "file" .filledText, .ofString f.file), (.needed "kind" (.oneOf ["parse", "analysis"]), .ofString f.kind),
      (.needed "message" .filledText, .string f.message)] (by simp only [List.map_cons, List.map_nil]; decide) ?_
  simp only [List.forall_mem_cons, List.not_mem_nil, false_implies, implies_true, and_true]
  exact ⟨fits_filledText reportable.file, fits_oneOf reportable.kind, fits_filledMessage reportable.message⟩

theorem Summary.nonneg_fields (found : List Diagnostic) : ∀ f ∈ (ofFindings found).fields, 0 ≤ f.2 := by
  simp [fields, ofFindings]

theorem Summary.fits_toJson (found : List Diagnostic) : (ofFindings found).toJson.Fits Contract.summary :=
  fits_counts (ofFindings found).fields (by simp only [fields, List.map_cons, List.map_nil]; decide) (nonneg_fields found)

theorem FileCounts.fits_toJson (found : List Diagnostic) {path : String} (filled : path ≠ "") :
    (ofFindings found path).toJson.Fits Contract.fileCounts := by
  refine fits_record_of_parts
    [(.needed "path" .filledText, .ofString path), (.needed "errors" .natural, .ofInt (ofFindings found path).errors),
      (.needed "warnings" .natural, .ofInt (ofFindings found path).warnings),
      (.needed "info" .natural, .ofInt (ofFindings found path).info)] (by simp only [List.map_cons, List.map_nil]; decide) ?_
  simp only [List.forall_mem_cons, List.not_mem_nil, false_implies, implies_true, and_true]
  refine ⟨fits_filledText filled, fits_ofInt ?_, fits_ofInt ?_, fits_ofInt ?_⟩ <;>
    exact Int.natCast_nonneg _

theorem Statistics.nonneg_fields (files : Nat) (p : Project) : ∀ f ∈ (ofProject files p).fields, 0 ≤ f.2 := by
  have grows (count : Body → Nat) (bodies : List Body) (n : Int) (nonneg : 0 ≤ n) :
      0 ≤ bodies.foldl (fun (n : Int) b => n + count b) n := by
    induction bodies generalizing n with
    | nil => exact nonneg
    | cons b bodies ih => exact ih _ (Int.add_nonneg nonneg (Int.natCast_nonneg _))
  simp only [fields, ofProject, List.forall_mem_cons, List.not_mem_nil, false_implies, implies_true, and_true,
    Int.natCast_nonneg, true_and]
  exact ⟨grows _ _ 0 (Int.le_refl 0), grows _ _ 0 (Int.le_refl 0), grows _ _ 0 (Int.le_refl 0)⟩

theorem Statistics.fits_toJson (files : Nat) (p : Project) : (ofProject files p).toJson.Fits Contract.statistics :=
  fits_counts (ofProject files p).fields (by simp only [fields, List.map_cons, List.map_nil]; decide) (nonneg_fields files p)

/-- A report on findings and failures that have something to say keeps its contract. -/
theorem LintReport.fits_toJson {found : List Diagnostic} {failures : List FailedFile} (files : Nat) (p : Project)
    (findings : ∀ d ∈ found, d.IsReportable) (failed : ∀ f ∈ failures, f.IsReportable) :
    (ofFindings found failures (.ofProject files p)).toJson.Fits Contract.report := by
  refine fits_record_of_parts
    [(.needed "diagnostics" (.listOf Contract.finding), .ofList Diagnostic.toJson found),
      (.needed "errors" (.listOf Contract.fileError), .ofList FailedFile.toJson failures),
      (.needed "summary" Contract.summary, (Summary.ofFindings found).toJson),
      (.needed "stats" Contract.statistics, (Statistics.ofProject files p).toJson),
      (.needed "files" (.listOf Contract.fileCounts), .ofList FileCounts.toJson
        ((sortedSet (found.map Diagnostic.file)).map (FileCounts.ofFindings found)))]
    (by simp only [List.map_cons, List.map_nil]; decide) ?_
  simp only [List.forall_mem_cons, List.not_mem_nil, false_implies, implies_true, and_true]
  refine ⟨fits_listOf ?_, fits_listOf ?_, Summary.fits_toJson found, Statistics.fits_toJson files p, fits_listOf ?_⟩
  · simpa using fun d member => Diagnostic.fits_toJson (findings d member)
  · simpa using fun f member => FailedFile.fits_toJson (failed f member)
  · intro item member
    simp only [List.mem_map] at member
    obtain ⟨_, ⟨path, among, rfl⟩, rfl⟩ := member
    obtain ⟨d, listed, rfl⟩ := List.mem_map.mp (mem_sortedSet.mp among)
    exact FileCounts.fits_toJson found (findings d listed).file

end DesignLint
