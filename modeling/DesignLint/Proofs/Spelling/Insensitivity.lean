import DesignLint.Project.Findings
import DesignLint.Proofs.Lockstep.Findings
import DesignLint.Proofs.Lockstep.Linking
import DesignLint.Proofs.Project.Symbols
import DesignLint.Proofs.Spelling.Matching

/-! The analysis does not depend on the case of ASCII letters. Two spellings of the files of a project are read into
trees that differ in the spelling of names only; names are looked up without regard to case and the standard rules match
without regard to case, so the files have the same links and the same findings. -/
namespace DesignLint

namespace Region

open Bytes (lowered)

theorem lowered_dropWhile {p : UInt8 → Bool} (caseless : Lexer.Caseless p) (text : Bytes) :
    lowered (text.dropWhile p) = text.lowered.dropWhile p := by
  have same : p ∘ lowerByte = p := funext caseless
  rw [lowered, lowered, List.dropWhile_map, same]

theorem caseless_isBlank : Lexer.Caseless isBlank := Lexer.caseless_of_letters (by decide)
theorem caseless_isWordByte : Lexer.Caseless isWordByte := Lexer.caseless_of_letters (by decide)

theorem afterWord?_lowered (word : String) (line : Bytes) :
    afterWord? word line.lowered = (afterWord? word line).map lowered := by
  have taken : (line.lowered.take (Bytes.ofString word).length).map lowerByte =
      (line.take (Bytes.ofString word).length).map lowerByte := by
    rw [← Lexer.lowered_take]
    exact Bytes.lowered_lowered _
  change (if (line.lowered.take (Bytes.ofString word).length).map lowerByte = Bytes.ofString word then _ else none) =
    Option.map lowered (if (line.take (Bytes.ofString word).length).map lowerByte = Bytes.ofString word then _ else none)
  rw [taken, ← Lexer.lowered_drop]
  split <;> rfl

theorem wordEnds_lowered (rest : Bytes) : wordEnds rest.lowered = wordEnds rest := by
  cases rest with
  | nil => rfl
  | cons b rest => simp [wordEnds, Lexer.lowered_cons, caseless_isWordByte b]

/-- A comment says the same in every spelling. -/
theorem pragma?_lowered (line : Bytes) : pragma? line.lowered = pragma? line := by
  rw [pragma?, ← lowered_dropWhile caseless_isBlank, afterWord?_lowered, pragma?]
  cases afterWord? "--" (line.dropWhile isBlank) with
  | none => rfl
  | some comment =>
    simp only [Option.map_some, Option.bind_eq_bind, Option.bind_some, ← lowered_dropWhile caseless_isBlank,
      afterWord?_lowered]
    cases afterWord? marker (comment.dropWhile isBlank) with
    | none => rfl
    | some rest =>
      simp only [Option.map_some, Option.bind_some, ← lowered_dropWhile caseless_isBlank, afterWord?_lowered,
        Bytes.length_lowered]
      cases afterWord? "off" (rest.dropWhile isBlank) with
      | some rest => simp only [Option.map_some, wordEnds_lowered]
      | none =>
        simp only [Option.map_none]
        cases afterWord? "on" (rest.dropWhile isBlank) with
        | none => rfl
        | some rest => simp only [Option.map_some, Option.bind_some, wordEnds_lowered]

theorem splitOn_lowered {sep : UInt8} (plain : Lexer.isLetter sep = false) (text : Bytes) :
    Bytes.splitOn sep text.lowered = (Bytes.splitOn sep text).map lowered := by
  induction text with
  | nil => rfl
  | cons b rest ih =>
    rw [Lexer.lowered_cons, Bytes.splitOn, Bytes.splitOn, ih]
    cases Bytes.splitOn sep rest with
    | nil => rfl
    | cons piece pieces =>
      simp only [List.map_cons, Lexer.lowerByte_eq_iff plain]
      split <;> rfl

theorem ignoredFrom_lowered (n : Nat) (inside : Bool) (lines : List Bytes) :
    ignoredFrom n inside (lines.map lowered) = ignoredFrom n inside lines := by
  induction lines generalizing n inside with
  | nil => rfl
  | cons line lines ih => simp only [List.map_cons, ignoredFrom, pragma?_lowered, ih]

variable {text text' : Bytes}

/-- The regions of a text are the same in every spelling. -/
theorem ignoredLines_eq (same : text.lowered = text'.lowered) : ignoredLines text = ignoredLines text' := by
  have lowered (text : Bytes) : ignoredLines text.lowered = ignoredLines text := by
    rw [ignoredLines, splitOn_lowered rfl, ignoredFrom_lowered, ignoredLines]
  rw [← lowered text, same, lowered]

theorem mentioned_eq (same : text.lowered = text'.lowered) : mentioned text = mentioned text' := by
  rw [mentioned, ← Bytes.lower_lowered, same, Bytes.lower_lowered, mentioned]

end Region

/-- A finding less its wording: the rule, the severity and the place. -/
def Diagnostic.place (d : Diagnostic) : String × String × Span := (d.rule, d.severity, d.range)

/-- The same findings, less their wording, are outside the regions in every spelling. -/
theorem Region.keepOutside_places {text text' : Bytes} (same : text.lowered = text'.lowered)
    {found found' : List Diagnostic} (places : found.map Diagnostic.place = found'.map Diagnostic.place) :
    (keepOutside text found).map Diagnostic.place = (keepOutside text' found').map Diagnostic.place := by
  have outside (found : List Diagnostic) (ignored : List Nat) :
      (found.filter fun d => !(ignored.any fun n => d.range.start.line == Int.ofNat n)).map Diagnostic.place =
        (found.map Diagnostic.place).filter fun d => !(ignored.any fun n => d.2.2.start.line == Int.ofNat n) := by
    rw [List.filter_map]
    rfl
  rw [keepOutside, keepOutside, mentioned_eq same, ignoredLines_eq same]
  split
  · exact places
  · rw [outside, outside, places]

/-- Two spellings of one file: only the case of ASCII letters differs. -/
structure SourceFile.Respelt (f f' : SourceFile) : Prop where
  path_eq : f.path = f'.path
  library_eq : f.library = f'.library
  text_eq : f.text.lowered = f'.text.lowered

/-- Two spellings of one file that were read in lockstep. -/
structure Tree.ReadTogether (t t' : Tree) : Prop where
  formed : t.WellFormed
  twin : t.Twin (.ofSpellings t.path) t'

namespace Tree.ReadTogether

variable {t t' : Tree}

theorem respelt (together : t.ReadTogether t') : t.Respelt t' := together.twin.outline

theorem path_eq (together : t.ReadTogether t') : t.path = t'.path := (congrArg Tree.path together.respelt :)

end Tree.ReadTogether

namespace SourceFile

variable {f f' : SourceFile} {files files' : List SourceFile}

theorem Respelt.tree?_rel (same : f.Respelt f') : Option.Rel Tree.ReadTogether f.tree? f'.tree? := by
  rw [tree?, tree?, ← same.path_eq, ← same.library_eq]
  rcases Tree.parse_spellings f.path same.text_eq with ⟨t, t', parsed, parsed', twin⟩ |
    ⟨e, e', refused, refused', _⟩ | ⟨fault, refused, refused'⟩
  · rw [parsed, parsed']
    refine .some ⟨(Tree.wellFormed_of_parse parsed).1.retree rfl rfl, ?_⟩
    have path_eq : t.path = f.path := twin.path_eq
    rw [← path_eq] at twin
    exact twin.inLibrary f.library
  · rw [refused, refused']
    exact .none
  · rw [refused, refused']
    exact .none

theorem readTogether (respelt : List.Forall₂ Respelt files files') :
    List.Forall₂ Tree.ReadTogether (files.filterMap tree?) (files'.filterMap tree?) := by
  induction respelt with
  | nil => exact .nil
  | @cons f f' files files' first _ ih =>
    rw [List.filterMap_cons, List.filterMap_cons]
    have trees := first.tree?_rel
    generalize f.tree? = t, f'.tree? = t' at trees ⊢
    cases trees with
    | none => exact ih
    | some together => exact .cons together ih

end SourceFile

namespace SymbolTable

/-- Two spellings of a file declare the same units. -/
theorem register_eq {t t' : Tree} (together : t.ReadTogether t') (state : SymbolTable × List Clash) (file : Nat) :
    register state t file = register state t' file := by
  have units_eq : t.exportedUnits = t'.exportedUnits :=
    Tree.eq_of_outline Tree.exportedUnits Tree.outline_exportedUnits together.respelt
  have declare_eq : declare t file = declare t' file := by
    funext state unit
    simp only [declare, together.path_eq, together.respelt.span_eq]
  rw [register, register, units_eq, declare_eq]

end SymbolTable

namespace Project

variable {settings : LinkSettings} {trees trees' : List Tree}

/-- Two spellings of the files of a project fill the same symbol table. -/
theorem registered_eq (together : List.Forall₂ Tree.ReadTogether trees trees') (first : Nat)
    (state : SymbolTable × List Clash) :
    (trees.zipIdx first).foldl (fun state (t, file) => SymbolTable.register state t file) state =
      (trees'.zipIdx first).foldl (fun state (t, file) => SymbolTable.register state t file) state := by
  induction together generalizing first state with
  | nil => rfl
  | cons head _ ih =>
    simp only [List.zipIdx_cons, List.foldl_cons, SymbolTable.register_eq head, ih]

theorem symbols_eq (together : List.Forall₂ Tree.ReadTogether trees trees') :
    (ofTrees settings trees).symbols = (ofTrees settings trees').symbols :=
  congrArg Prod.fst (registered_eq together firstFile ({}, []))

theorem design_outline_eq (together : List.Forall₂ Tree.ReadTogether trees trees') :
    (ofTrees settings trees).design.outline .spelling = (ofTrees settings trees').design.outline .spelling := by
  refine outline_design_eq (symbols_eq together) ?_
  induction together with
  | nil => rfl
  | cons head _ ih => exact congrArg₂ List.cons head.respelt ih

/-- Use clauses have the same places in both spellings. -/
theorem unresolvedUses_places {f f' : DesignFile} (same : f.tree.Respelt f'.tree)
    (unresolved : f.unresolved = f'.unresolved) :
    (unresolvedUses f).map Diagnostic.place = (unresolvedUses f').map Diagnostic.place := by
  have places (f : DesignFile) : (unresolvedUses f).map Diagnostic.place =
      ((f.tree.pick Construct.useClause? f.unresolved).map Prod.fst).map fun id =>
        (Rule.unresolvedUse.name, Rule.unresolvedUse.severity, f.tree.span id) := by
    rw [unresolvedUses, List.map_map, List.map_map]
    rfl
  have clauses (t : Tree) (ids : List NodeId) : ((t.outline .spelling).pick Construct.useClause? ids).map Prod.fst =
      (t.pick Construct.useClause? ids).map Prod.fst := by
    rw [t.outline_pick (Construct.useClause?_outline .spelling), List.map_map]
    rfl
  have spans_eq : f.tree.span = f'.tree.span := funext same.span_eq
  rw [places, places, ← clauses f.tree, same, clauses, unresolved, spans_eq]

/-- Findings that stand for each other are of one rule and at one place. -/
theorem place_eq {path : String} {text text' : Bytes} (same : text.lowered = text'.lowered) {d d' : Diagnostic}
    (twin : d.Twin (.ofSpellings path) text text' d') : d.place = d'.place := by
  obtain ⟨u, u', ⟨offset_eq, stop_eq⟩, start, start', stops⟩ := twin.place
  have start_eq : d.range.start = d'.range.start := by rw [start, start', offset_eq, Coordinate.ofOffset_eq same]
  have stop_eq : d.range.stop = d'.range.stop := by
    rcases stops with ⟨stop, stop'⟩ | ⟨stop, stop'⟩
    · rw [stop, stop', stop_eq, Coordinate.ofOffset_eq same]
    · rw [stop, stop', start_eq]
  have range_eq : d.range = d'.range := congrArg₂ Span.mk start_eq stop_eq
  rw [Diagnostic.place, Diagnostic.place, twin.rule_eq, twin.severity_eq, range_eq]

/-- Checks that end alike leave the same findings, less their wording, before and after the regions are taken out. -/
theorem findings_places {p p' : Project} {f f' : DesignFile} {n n' : Nat} (same : f.tree.Respelt f'.tree)
    (unresolved : f.unresolved = f'.unresolved)
    (checked : (p.subject f n).FindingsAlike (.ofSpellings f.tree.path) (p'.subject f' n')
      (Lint.checkAll (f.tree.facts f.rules) (p.subject f n)) (Lint.checkAll (f'.tree.facts f'.rules) (p'.subject f' n')))
    (ignoreRegions : Bool) :
    SameOutcome (fun found found' => found.map Diagnostic.place = found'.map Diagnostic.place)
      (p.findings ignoreRegions f n) (p'.findings ignoreRegions f' n') := by
  have path_eq : f.tree.path = f'.tree.path := (congrArg Tree.path same :)
  rw [findings, findings]
  generalize (Lint.checkAll (f.tree.facts f.rules) (p.subject f n) : Except Fault _) = run,
    (Lint.checkAll (f'.tree.facts f'.rules) (p'.subject f' n') : Except Fault _) = run' at checked ⊢
  cases checked with
  | error fault =>
    simp only [path_eq]
    exact .error _
  | @ok found found' twins =>
    have found_eq : found.map Diagnostic.place = found'.map Diagnostic.place := by
      induction twins with
      | nil => rfl
      | cons head _ ih => exact congrArg₂ List.cons (place_eq same.text_eq head) ih
    have all_eq : (unresolvedUses f ++ found).map Diagnostic.place = (unresolvedUses f' ++ found').map Diagnostic.place := by
      rw [List.map_append, List.map_append, unresolvedUses_places same unresolved, found_eq]
    refine .ok ?_
    cases ignoreRegions with
    | true => exact Region.keepOutside_places same.text_eq all_eq
    | false => exact all_eq

/-- Two spellings of one file of a project: they are linked alike, and their findings are of the same rules at the same
places. -/
structure SameMember (settings : LinkSettings) (p p' : Project) (m m' : DesignFile × Nat) : Prop where
  number_eq : m.2 = m'.2
  tree : m.1.tree.Respelt m'.1.tree
  clause_eq : ∀ id, (m.1.tree.get? Construct.useClause? id).bind (findPackage p.symbols settings m.1.tree) =
    (m'.1.tree.get? Construct.useClause? id).bind (findPackage p'.symbols settings m'.1.tree)
  packages_eq : m.1.packages = m'.1.packages
  unresolved_eq : m.1.unresolved = m'.1.unresolved
  linked_eq : m.1.linked = m'.1.linked
  target_eq : ∀ id, p.design.resolveInstance m.2 id m.1.packages p.symbols.entity? =
    p'.design.resolveInstance m'.2 id m'.1.packages p'.symbols.entity?
  findings : ∀ ignoreRegions, SameOutcome (fun found found' => found.map Diagnostic.place = found'.map Diagnostic.place)
    (p.findings ignoreRegions m.1 m.2) (p'.findings ignoreRegions m'.1 m'.2)

/-- Two spellings of a file see the same packages and the same entity. -/
theorem links_eq {t t' : Tree} (same : t.Respelt t') (symbols : SymbolTable) (settings : LinkSettings) :
    (linkFile symbols settings t).packages = (linkFile symbols settings t').packages ∧
      (linkFile symbols settings t).unresolved = (linkFile symbols settings t').unresolved ∧
      (linkFile symbols settings t).linked = (linkFile symbols settings t').linked := by
  have uses_eq : linkUses symbols settings t = linkUses symbols settings t' :=
    Tree.eq_of_outline (linkUses symbols settings) (outline_linkUses symbols settings) same
  have entity_eq : linkEntity symbols t = linkEntity symbols t' :=
    Tree.eq_of_outline (linkEntity symbols) (outline_linkEntity symbols) same
  exact ⟨congrArg Prod.fst uses_eq, congrArg Prod.snd uses_eq, entity_eq⟩

section

variable {p p' : Project} {t t' : Tree} (symbols : p.symbols = p'.symbols)
  (designs : p.design.outline .spelling = p'.design.outline .spelling) (together : t.ReadTogether t')
include symbols designs together

theorem subject_twin (settings : LinkSettings) (n : Nat) :
    (p.subject (linkFile p.symbols settings t) n).Twin (.ofSpellings t.path)
      (p'.subject (linkFile p'.symbols settings t') n) where
  formed := together.formed
  tree := together.twin
  design := designs
  file := rfl
  packages := by
    rw [symbols]
    exact (links_eq together.respelt p'.symbols settings).1
  entities := congrArg SymbolTable.entity? symbols
  respects := p.symbols.entity?_respects

theorem sameMember_linkFile (follow : Bool) (n : Nat) :
    SameMember ⟨.standard, follow⟩ p p' (linkFile p.symbols ⟨.standard, follow⟩ t, n)
      (linkFile p'.symbols ⟨.standard, follow⟩ t', n) := by
  have subjects := subject_twin symbols designs together ⟨.standard, follow⟩ n
  obtain ⟨packages_eq, unresolved_eq, linked_eq⟩ := links_eq together.respelt p'.symbols ⟨.standard, follow⟩
  have clause_eq (id : NodeId) := Tree.eq_of_outline
    (fun t => (t.get? Construct.useClause? id).bind (findPackage p'.symbols ⟨.standard, follow⟩ t))
    (fun t => outline_clause p'.symbols ⟨.standard, follow⟩ t id) together.respelt
  rw [symbols] at subjects ⊢
  exact ⟨rfl, together.respelt, by rw [symbols]; exact clause_eq, packages_eq, unresolved_eq, linked_eq,
    subjects.resolveInstance_eq, findings_places together.respelt unresolved_eq
      (subjects.checkAll together.respelt.conditionsAlike)⟩

end

/-- Files that are numbered alike. -/
theorem forall₂_numbered {α β γ δ : Type} {related : α → β → Prop} {final : γ × Nat → δ × Nat → Prop} {f : α → γ}
    {g : β → δ} (each : ∀ a b n, related a b → final (f a, n) (g b, n)) {xs : List α} {ys : List β}
    (lists : List.Forall₂ related xs ys) (first : Nat) :
    List.Forall₂ final ((xs.map f).zipIdx first) ((ys.map g).zipIdx first) := by
  induction lists generalizing first with
  | nil => exact .nil
  | cons head _ ih => exact .cons (each _ _ first head) (ih (first + 1))

/-- The case of ASCII letters plays no part in the analysis of files under the standard rules. In every spelling the
same files are read, into trees that differ in the spelling of names only, and the others are refused at the same
places; use clauses, architectures and instantiations lead to the same packages, entities and units; and each file has
findings of the same rules, severities and places. -/
theorem analysis_ignores_case (follow : Bool) {files files' : List SourceFile}
    (respelt : List.Forall₂ SourceFile.Respelt files files') :
    let settings : LinkSettings := ⟨.standard, follow⟩
    let p := ofSources settings files
    let p' := ofSources settings files'
    List.Forall₂ (fun f f' => Tree.SameReading (Tree.parse f.path f.text) (Tree.parse f'.path f'.text)) files files' ∧
      List.Forall₂ (SameMember settings p p') p.members p'.members := by
  intro settings p p'
  refine ⟨respelt.imp fun f f' same => ?_, ?_⟩
  · rw [← same.path_eq]
    exact Tree.sameReading_of_lowered f.path same.text_eq
  · have together := SourceFile.readTogether respelt
    have symbols : p.symbols = p'.symbols := symbols_eq together
    have designs : p.design.outline .spelling = p'.design.outline .spelling := design_outline_eq together
    change List.Forall₂ _ (ofTrees settings _).members (ofTrees settings _).members
    rw [members_ofTrees, members_ofTrees]
    exact forall₂_numbered (fun t t' n (pair : t.ReadTogether t') => sameMember_linkFile symbols designs pair follow n) together firstFile

theorem packageFile_named : "p.vhd" ≠ "" := by decide

theorem readerFile_named : "a.vhd" ≠ "" := by decide

/-- A package, and a clocked process that reads its constant. -/
def smallLetters : List SourceFile :=
  [⟨"p.vhd", packageFile_named, ownLibrary, Bytes.ofString "package p is\n constant c : bit;\nend package;\n"⟩,
    ⟨"a.vhd", readerFile_named, ownLibrary, Bytes.ofString <| "use work.p.all;\narchitecture a of e is\nsignal s : bit;\nbegin\n" ++
      "process (clk) begin\nif rising_edge(clk) then s <= c; end if;\nend process;\nend;\n"⟩]

/-- The same files in another spelling. -/
def mixedLetters : List SourceFile :=
  [⟨"p.vhd", packageFile_named, ownLibrary, Bytes.ofString "PACKAGE P IS\n Constant C : Bit;\nEND PACKAGE;\n"⟩,
    ⟨"a.vhd", readerFile_named, ownLibrary, Bytes.ofString <| "USE Work.P.ALL;\nArchitecture A of E is\nsignal S : BIT;\nbegin\n" ++
      "Process (Clk) Begin\nIF Rising_Edge(CLK) THEN s <= C; END IF;\nEnd Process;\nEND;\n"⟩]

theorem analysis_ignores_case_mixed :
    (smallLetters.all (·.tree?.isSome)) = true ∧ List.Forall₂ SourceFile.Respelt smallLetters mixedLetters ∧
      List.Forall₂ (fun f f' => Tree.SameReading (Tree.parse f.path f.text) (Tree.parse f'.path f'.text)) smallLetters
        mixedLetters ∧
      List.Forall₂ (SameMember {} (ofSources {} smallLetters) (ofSources {} mixedLetters))
        (ofSources {} smallLetters).members (ofSources {} mixedLetters).members := by
  have respelt : List.Forall₂ SourceFile.Respelt smallLetters mixedLetters := by
    rw [smallLetters, mixedLetters, Bytes.ofString_append, Bytes.ofString_append]
    rw [Bytes.ofString_ofList, Bytes.ofString_ofList, Bytes.ofString_ofList, Bytes.ofString_ofList,
      Bytes.ofString_ofList, Bytes.ofString_ofList]
    exact .cons ⟨rfl, rfl, by decide +kernel⟩ (.cons ⟨rfl, rfl, by decide +kernel⟩ .nil)
  obtain ⟨read, alike⟩ := analysis_ignores_case true respelt
  refine ⟨?_, respelt, read, alike⟩
  rw [smallLetters, Bytes.ofString_append, Bytes.ofString_ofList, Bytes.ofString_ofList, Bytes.ofString_ofList]
  decide +kernel

end Project
end DesignLint
