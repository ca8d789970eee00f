import DesignLint.Proofs.Text.Decoding
import DesignLint.Proofs.Token.Matching
import DesignLint.Proofs.Parse.Outcome
import DesignLint.Proofs.Project.Symbols

/-! Keys of units. A key is a library and names, joined by points and in lower case. An identifier has no point in it
or stands between backslashes, so that the last name of a key can be told from what comes before it. What cannot be
told is where the library ends: a library whose name holds a point can look like a package of another library. Keys
that agree name by name are of names that are the same, except for characters whose lower case and whose folding do not
go together. -/
namespace DesignLint

open Bytes

section Parts

/-- The lower case of an identifier: without points and backslashes, or between two backslashes. -/
def IsPart (cs : List Char) : Prop :=
  ('.' ∉ cs ∧ '\\' ∉ cs) ∨ ∃ inside, '\\' ∉ inside ∧ cs = '\\' :: inside ++ ['\\']

variable {a b x y front : List Char}

/-- No part ends in a point and another part. -/
theorem IsPart.ne_append (part : IsPart a) (other : IsPart b) : a ≠ front ++ '.' :: b := by
  rintro rfl
  rcases part with ⟨pointless, _⟩ | ⟨inside, unslashed, same⟩
  · exact pointless (by simp)
  rcases List.eq_nil_or_concat b with rfl | ⟨before, last, rfl⟩
  · have ends := (List.append_inj' same rfl).2
    contradiction
  · have cut : front ++ '.' :: before ++ [last] = '\\' :: inside ++ ['\\'] := by simpa using same
    obtain ⟨start, ends⟩ := List.append_inj' cut rfl
    cases ends
    rcases other with ⟨_, clean⟩ | ⟨inside', _, slashed⟩
    · exact clean (by simp)
    · obtain ⟨opens, _⟩ := List.append_inj' (List.concat_eq_append ▸ slashed) rfl
      subst opens
      cases front with
      | nil => simp at start
      | cons c front =>
        obtain ⟨_, rfl⟩ := List.cons.inj start
        exact unslashed (by simp)

/-- Where the last part begins can be told. -/
theorem IsPart.append_inj (part : IsPart a) (other : IsPart b) (same : x ++ '.' :: a = y ++ '.' :: b) :
    x = y ∧ a = b := by
  rcases List.append_eq_append_iff.mp same with ⟨front, rfl, left⟩ | ⟨front, rfl, left⟩
  · cases front with
    | nil => exact ⟨by simp, (List.cons.inj left).2⟩
    | cons c front => exact absurd (List.cons.inj left).2 (part.ne_append other)
  · cases front with
    | nil => exact ⟨by simp, ((List.cons.inj left).2).symm⟩
    | cons c front => exact absurd (List.cons.inj left).2 (other.ne_append part)

end Parts

section Lower

theorem lowerRuns_high : ∀ run ∈ CaseTable.lowerRuns, (92 : Int) < run.first + run.shift := by decide +kernel

theorem lowerRuns_image {run : CaseTable.Run} (member : run ∈ CaseTable.lowerRuns) {code image : Nat}
    (found : run.image? code = some image) : 92 < image := by
  have high := lowerRuns_high run member
  obtain ⟨low, _, moved⟩ := CaseTable.Run.of_image? found
  omega

/-- No other character turns into a point or a backslash. -/
theorem eq_of_lowerChar {c sign : Char} (isSign : sign = '.' ∨ sign = '\\') (low : lowerChar c = sign) : c = sign := by
  by_cases ascii : c.toNat < 128
  · rw [lowerChar, if_pos ascii] at low
    exact eq_of_toLower_eq (by rcases isSign with rfl | rfl <;> decide) low
  · rw [lowerChar, if_neg ascii, mapByRuns] at low
    split at low
    · rename_i code found
      obtain ⟨run, member, image⟩ := List.exists_of_findSome?_eq_some found
      have large := lowerRuns_image member image
      have small : sign.toNat ≤ 92 ∧ sign ≠ Char.ofNat 0 := by rcases isSign with rfl | rfl <;> decide
      by_cases valid : code.isValidChar
      · have code_eq : (Char.ofNat code).toNat = code := by rw [Char.ofNat, dif_pos valid]; rfl
        rw [low] at code_eq
        omega
      · rw [Char.ofNat, dif_neg valid] at low
        exact absurd low.symm small.2
    · exact low

/-- A sign in the lower case of a text is a byte of the text. -/
theorem mem_of_mem_lower {sign : Char} (isSign : sign = '.' ∨ sign = '\\') {text : Bytes}
    (member : sign ∈ text.lower.toList) : UInt8.ofNat sign.toNat ∈ text := by
  rw [Bytes.lower, String.toList_ofList, List.mem_map] at member
  obtain ⟨c, member, low⟩ := member
  rw [eq_of_lowerChar isSign low] at member
  exact mem_of_mem_chars (by rcases isSign with rfl | rfl <;> decide) (by rcases isSign with rfl | rfl <;> decide) member

theorem toList_lower_append {c : UInt8} (ascii : c < 0x80) (text rest : Bytes) :
    (Bytes.lower (text ++ c :: rest)).toList =
      text.lower.toList ++ lowerChar (Char.ofNat c.toNat) :: rest.lower.toList := by
  simp only [Bytes.lower, String.toList_ofList, chars_append ascii, List.map_append, List.map_cons]

/-- A name as the lexer reads it. -/
def IsIdentifier (name : Bytes) : Prop := name ∈ Lexer.Rule.identifier.pattern

theorem IsIdentifier.isPart {name : Bytes} (identifier : IsIdentifier name) : IsPart name.lower.toList := by
  rcases identifier with plain | extended
  · obtain ⟨b, rest, letter, member, rfl⟩ := Lexer.mem_byte_mul.mp plain
    have each (x : UInt8) (inside : x ∈ b :: rest) :
        (Lexer.isLetter x || Lexer.isDigit x || Lexer.isUnderscore x) = true := by
      rcases List.mem_cons.mp inside with rfl | inside
      · simp [letter]
      · exact Lexer.mem_star_byte.mp member x inside
    constructor
    constructor
    · intro point
      exact absurd (each _ (mem_of_mem_lower (.inl rfl) point)) (by decide)
    · intro slash
      exact absurd (each _ (mem_of_mem_lower (.inr rfl) slash)) (by decide)
  · obtain ⟨b, _, opens, member, rfl⟩ := Lexer.mem_byte_mul.mp extended
    obtain ⟨body, run, _, ⟨c, closes, rfl⟩, rfl⟩ := Language.mem_mul.mp member
    obtain rfl : b = 92 := by simpa [Lexer.isBackslash] using opens
    obtain rfl : c = 92 := by simpa [Lexer.isBackslash] using closes
    refine .inr ⟨(Bytes.lower body).toList, fun slash => ?_, ?_⟩
    · have inside := (Lexer.mem_bytes.mp run).2 _ (mem_of_mem_lower (.inr rfl) slash)
      contradiction
    · have first := toList_lower_append (c := 92) (by decide) [] (body ++ [92])
      have last := toList_lower_append (c := 92) (by decide) body []
      have sign : lowerChar (Char.ofNat (92 : UInt8).toNat) = '\\' := by decide
      have empty : (Bytes.lower []).toList = [] := by simp [Bytes.lower, chars, units]
      rw [sign, empty] at first last
      rw [last] at first
      exact first

theorem toList_qualify (library : Bytes) (names : List Bytes) :
    (qualify library names).toList = library.lower.toList ++ names.flatMap fun name => '.' :: name.lower.toList := by
  induction names generalizing library with
  | nil => simp [qualify]
  | cons name names ih =>
    have joined : List.intercalate (Bytes.ofString ".") (library :: name :: names) =
        library ++ 46 :: List.intercalate (Bytes.ofString ".") (name :: names) := by
      have point : Bytes.ofString "." = [46] := by decide
      rw [List.intercalate_cons_cons, point, List.append_assoc]
      rfl
    have sign : lowerChar (Char.ofNat (46 : UInt8).toNat) = '.' := by decide
    rw [qualify, joined, toList_lower_append (c := 46) (by decide), sign, List.flatMap_cons]
    exact congrArg (library.lower.toList ++ '.' :: ·) (ih name)

theorem qualify_nil (library : Bytes) : qualify library [] = library.lower := by
  rw [← String.toList_inj, toList_qualify]
  simp

/-- Keys agree exactly if their last names do, in lower case, and what comes before them does. -/
theorem qualify_concat_eq_iff {name name' : Bytes} (identifier : IsIdentifier name) (identifier' : IsIdentifier name')
    (library library' : Bytes) (names names' : List Bytes) :
    qualify library (names ++ [name]) = qualify library' (names' ++ [name']) ↔
      qualify library names = qualify library' names' ∧ name.lower = name'.lower := by
  simp only [← String.toList_inj, toList_qualify, List.flatMap_append, List.flatMap_cons, List.flatMap_nil,
    List.append_nil, ← List.append_assoc]
  constructor
  · exact identifier.isPart.append_inj identifier'.isPart
  · rintro ⟨front, last⟩
    rw [front, last]

end Lower

section Folding

/-- Whether lower case and folding go together at a character: neither tells apart what the other takes as one. -/
def isRegular (c : Char) : Bool := lowerChar (foldChar c) = lowerChar c && foldChar (lowerChar c) = foldChar c

/-- Texts of regular characters. -/
def Bytes.isRegular (text : Bytes) : Bool := text.chars.all DesignLint.isRegular

/-- On texts of regular characters, to be equal in lower case is to be the same name. -/
theorem lower_eq_iff_sameName {a b : Bytes} (regular : a.isRegular = true) (regular' : b.isRegular = true) :
    a.lower = b.lower ↔ sameName a b = true := by
  have folds (text : Bytes) (regular : text.isRegular = true) :
      (text.chars.map lowerChar).map foldChar = text.folded ∧ text.folded.map lowerChar = text.chars.map lowerChar := by
    simp only [Bytes.isRegular, List.all_eq_true, DesignLint.isRegular, Bool.and_eq_true, decide_eq_true_eq] at regular
    simp only [Bytes.folded, List.map_map]
    exact ⟨List.map_congr_left fun c member => (regular c member).2,
      List.map_congr_left fun c member => (regular c member).1⟩
  obtain ⟨fold, low⟩ := folds a regular
  obtain ⟨fold', low'⟩ := folds b regular'
  rw [sameName, beq_iff_eq, Bytes.lower, Bytes.lower, String.ofList_inj]
  constructor
  · intro same
    rw [← fold, same, fold']
  · intro same
    rw [← low, same, low']

end Folding

/-- The library of a unit and its name, or the names of its package and itself. -/
structure UnitName where
  library : Bytes
  names : List Bytes
deriving DecidableEq

/-- Whether names are the same one by one. -/
def sameNames : List Bytes → List Bytes → Bool
  | [], [] => true
  | a :: as, b :: bs => sameName a b && sameNames as bs
  | _, _ => false

namespace UnitName

/-- What the unit is found under. -/
def key (u : UnitName) : String := qualify u.library u.names

/-- Whether two units have the same library and the same names. -/
def same (u v : UnitName) : Bool := sameName u.library v.library && sameNames u.names v.names

/-- The names of units are identifiers: one for an entity or a package, two for a component of a package. -/
structure Valid (u : UnitName) : Prop where
  length : u.names.length = 1 ∨ u.names.length = 2
  identifiers : ∀ name ∈ u.names, IsIdentifier name

/-- The library of the first unit is spelled like the package of the second, with its library and a point before. -/
def Mimics (u v : UnitName) : Prop :=
  ∃ name package component, u.names = [name] ∧ v.names = [package, component] ∧
    u.library.lower = qualify v.library [package] ∧ name.lower = component.lower

/-- Units whose library has no point in its name and whose names are regular. -/
structure Plain (u : UnitName) : Prop extends u.Valid where
  pointless : 46 ∉ u.library
  regular : ∀ name ∈ u.library :: u.names, Bytes.isRegular name = true

variable {u v : UnitName}

/-- Whether names are plain can be computed. -/
theorem plain_of_check (check : ((u.names.length = 1 ∨ u.names.length = 2) ∧
    (∀ name ∈ u.names, Lexer.identifier? name = some name.length) ∧ 46 ∉ u.library ∧
      ∀ name ∈ u.library :: u.names, Bytes.isRegular name = true)) : u.Plain := by
  obtain ⟨length, identifiers, pointless, regular⟩ := check
  refine ⟨⟨length, fun name member => ?_⟩, pointless, regular⟩
  have taken := Lexer.identifier?_follows.sound (identifiers name member)
  rwa [List.take_length] at taken

theorem Valid.cases (valid : u.Valid) :
    (∃ name, u.names = [name] ∧ IsIdentifier name) ∨
      ∃ package name, u.names = [package, name] ∧ IsIdentifier package ∧ IsIdentifier name := by
  obtain ⟨library, names⟩ := u
  rcases valid with ⟨length | length, identifiers⟩
  · obtain ⟨name, rfl⟩ := List.length_eq_one_iff.mp length
    exact .inl ⟨name, rfl, identifiers name (by simp)⟩
  · obtain ⟨package, name, rfl⟩ := List.length_eq_two.mp length
    exact .inr ⟨package, name, rfl, identifiers package (by simp), identifiers name (by simp)⟩

/-- When two keys agree: library and names do in lower case, or one library takes up the package of the other unit. -/
theorem key_eq_iff (valid : u.Valid) (valid' : v.Valid) :
    u.key = v.key ↔
      (u.library.lower = v.library.lower ∧ u.names.map Bytes.lower = v.names.map Bytes.lower) ∨ u.Mimics v ∨
        v.Mimics u := by
  obtain ⟨library, names⟩ := u
  obtain ⟨library', names'⟩ := v
  have one {name name' : Bytes} (i : IsIdentifier name) (i' : IsIdentifier name') :=
    qualify_concat_eq_iff i i' library library' [] []
  have two {package name package' name' : Bytes} (i : IsIdentifier name) (i' : IsIdentifier name') :=
    qualify_concat_eq_iff i i' library library' [package] [package']
  have oneTwo {name package' name' : Bytes} (i : IsIdentifier name) (i' : IsIdentifier name') :=
    qualify_concat_eq_iff i i' library library' [] [package']
  have twoOne {package name name' : Bytes} (i : IsIdentifier name) (i' : IsIdentifier name') :=
    qualify_concat_eq_iff i i' library library' [package] []
  simp only [List.nil_append, List.cons_append, qualify_nil] at one two oneTwo twoOne
  rcases valid.cases with ⟨name, rfl, i⟩ | ⟨package, name, rfl, j, i⟩ <;>
    rcases valid'.cases with ⟨name', rfl, i'⟩ | ⟨package', name', rfl, j', i'⟩
  · simp [key, Mimics, one i i']
  · simp [key, Mimics, oneTwo i i']
  · simp [key, Mimics, twoOne i i', eq_comm]
  · simp [key, Mimics, two i i', one j j', and_assoc]

/-- A library without a point mimics nothing. -/
theorem not_mimics (pointless : 46 ∉ u.library) : ¬u.Mimics v := by
  rintro ⟨name, package, component, _, _, same, _⟩
  have point : '.' ∈ u.library.lower.toList := by
    rw [same, toList_qualify]
    simp
  exact pointless (mem_of_mem_lower (.inl rfl) point)

theorem map_lower_eq_iff {names names' : List Bytes} (regular : ∀ name ∈ names, Bytes.isRegular name = true)
    (regular' : ∀ name ∈ names', Bytes.isRegular name = true) :
    names.map Bytes.lower = names'.map Bytes.lower ↔ sameNames names names' = true := by
  induction names generalizing names' with
  | nil => cases names' <;> simp [sameNames]
  | cons name names ih =>
    cases names' with
    | nil => simp [sameNames]
    | cons name' names' =>
      rw [List.forall_mem_cons] at regular regular'
      rw [List.map_cons, List.map_cons, List.cons.injEq, lower_eq_iff_sameName regular.1 regular'.1,
        ih regular.2 regular'.2, sameNames, Bool.and_eq_true]

/-- Among plain units, keys agree exactly if the units have the same name. -/
theorem key_eq_iff_same (plain : u.Plain) (plain' : v.Plain) : u.key = v.key ↔ u.same v = true := by
  obtain ⟨regular, names⟩ := List.forall_mem_cons.mp plain.regular
  obtain ⟨regular', names'⟩ := List.forall_mem_cons.mp plain'.regular
  rw [key_eq_iff plain.toValid plain'.toValid, or_iff_left (not_mimics plain'.pointless),
    or_iff_left (not_mimics plain.pointless), lower_eq_iff_sameName regular regular', map_lower_eq_iff names names',
    same, Bool.and_eq_true]

end UnitName

namespace Tree

/-- The units that a file declares for others, by their names. -/
def namedUnits (t : Tree) : List (UnitName × SymbolKind × NodeId) :=
  let name id := (t.nameOf? id).getD []
  let entity := t.entity.toList.map fun id => (⟨t.library, [name id]⟩, SymbolKind.entity, id)
  let package := t.package.toList.flatMap fun id =>
    let components := ((t.get? Construct.package? id).map Package.components).getD []
    (⟨t.library, [name id]⟩, SymbolKind.package, id) ::
      components.map fun c => (⟨t.library, [name id, name c]⟩, SymbolKind.component, c)
  entity ++ package

theorem exportedUnits_eq (t : Tree) : t.exportedUnits = t.namedUnits.map fun unit => (unit.1.key, unit.2) := by
  simp [exportedUnits, namedUnits, UnitName.key, List.map_flatMap, Function.comp_def]

end Tree

namespace Project

/-- The units that the files of a project declare, by their names, in the order in which they are declared. -/
def namedUnits (trees : List Tree) : List (UnitName × Symbol) :=
  (trees.zipIdx firstFile).flatMap fun (t, file) => t.namedUnits.map fun (unit, kind, id) =>
    (unit, ⟨kind, t.path, (t.span id).start.line + 1, ⟨file, id⟩⟩)

theorem declaredBy_eq (trees : List Tree) :
    declaredBy trees firstFile = (namedUnits trees).map fun unit => (unit.1.key, unit.2) := by
  simp [declaredBy, namedUnits, Tree.declared, Tree.exportedUnits_eq, List.map_flatMap, Function.comp_def]

/-- The unit of a name that is declared last. -/
def lastNamed? (trees : List Tree) (name : UnitName) : Option Symbol :=
  ((namedUnits trees).reverse.find? fun unit => unit.1.same name).map Prod.snd

theorem lookup_key {units : List (UnitName × Symbol)} {name : UnitName}
    (agree : ∀ unit ∈ units, name.key = unit.1.key ↔ unit.1.same name = true) :
    (units.map fun unit => (unit.1.key, unit.2)).lookup name.key =
      (units.find? fun unit => unit.1.same name).map Prod.snd := by
  induction units with
  | nil => rfl
  | cons unit units ih =>
    rw [List.forall_mem_cons] at agree
    have first : (name.key == unit.1.key) = unit.1.same name := by rw [Bool.eq_iff_iff, beq_iff_eq, agree.1]
    rw [List.map_cons, List.lookup_cons, List.find?_cons, ih agree.2, first]
    cases unit.1.same name <;> rfl

/-- A project in which all units are plain finds, under every plain name, the last unit of that name. -/
theorem get?_eq_lastNamed? (settings : LinkSettings) {trees : List Tree}
    (plain : ∀ unit ∈ namedUnits trees, unit.1.Plain) {name : UnitName} (plainName : name.Plain) :
    (ofTrees settings trees).symbols.get? name.key = lastNamed? trees name := by
  rw [get?_ofTrees, declaredBy_eq, ← List.map_reverse, lookup_key, lastNamed?]
  intro unit member
  rw [eq_comm]
  exact UnitName.key_eq_iff_same (plain unit (List.mem_reverse.mp member)) plainName

/-- What keys say of units. Two keys agree if the libraries and the names agree in lower case, and else only if the one
library is spelled like the package of the other unit. If no library has a point in its name and lower case goes with
folding, then keys agree exactly for units of the same name, and the project finds under a name the last unit of that
name, whether it is looked for as a unit at all, as an entity or as a package. -/
theorem keys_identify_units (settings : LinkSettings) (trees : List Tree) :
    (∀ u v : UnitName, u.Valid → v.Valid →
      (u.key = v.key ↔
        (u.library.lower = v.library.lower ∧ u.names.map Bytes.lower = v.names.map Bytes.lower) ∨ u.Mimics v ∨
          v.Mimics u)) ∧
    (∀ u v : UnitName, u.Plain → v.Plain → (u.key = v.key ↔ u.same v = true)) ∧
    ((∀ unit ∈ namedUnits trees, unit.1.Plain) →
      ∀ name : UnitName, name.Plain →
        (ofTrees settings trees).symbols.get? name.key = lastNamed? trees name ∧
        ∀ n, name.names = [n] →
          (ofTrees settings trees).symbols.entity? name.library n =
            ((lastNamed? trees name).filter (·.kind = .entity)).map Symbol.ref ∧
          (ofTrees settings trees).symbols.package? name.library n =
            ((lastNamed? trees name).filter (·.kind = .package)).map Symbol.ref) := by
  refine ⟨fun u v => UnitName.key_eq_iff, fun u v => UnitName.key_eq_iff_same, fun plain name plainName => ?_⟩
  have found := get?_eq_lastNamed? settings plain plainName
  refine ⟨found, fun n single => ?_⟩
  rw [UnitName.key, single] at found
  rw [SymbolTable.entity?, SymbolTable.package?, found]
  cases lastNamed? trees name with
  | none => exact ⟨rfl, rfl⟩
  | some symbol => simp only [Option.filter_some, decide_eq_true_eq]; constructor <;> split <;> rfl

/-- The long s folds to the letter s, but it is its own lower case. -/
example : sameName (Bytes.ofString "\\ſ\\") (Bytes.ofString "\\s\\") = true ∧
    (⟨Bytes.ofString "work", [Bytes.ofString "\\ſ\\"]⟩ : UnitName).key ≠
      (⟨Bytes.ofString "work", [Bytes.ofString "\\s\\"]⟩ : UnitName).key := by decide +kernel

/-- A unit of a library with a point in its name takes the place of a component. -/
example : (⟨Bytes.ofString "work.p", [Bytes.ofString "c"]⟩ : UnitName).key =
    (⟨Bytes.ofString "work", [Bytes.ofString "p", Bytes.ofString "c"]⟩ : UnitName).key := rfl

/-- A file with an entity and with a package that declares a component. -/
def packagedComponent : Bytes :=
  Bytes.ofString "package p is\ncomponent C is end component;\nend;\nentity Top is end;\n"

/-- The units of the file are found whatever the case of the letters. -/
theorem packagedComponent_found : ∃ t, Tree.parse "design.vhd" packagedComponent = .ok t ∧
    (ofTrees {} [t]).symbols.entity? (Bytes.ofString "Work") (Bytes.ofString "TOP") = some ⟨firstFile, 3⟩ ∧
    ((ofTrees {} [t]).symbols.get? (qualify (Bytes.ofString "WORK") [Bytes.ofString "P", Bytes.ofString "c"])).map
      Symbol.ref = some ⟨firstFile, 2⟩ := by
  let work := Bytes.ofString "work"
  obtain ⟨t, parsed, found⟩ := exists_ok_of_any (show (Tree.parse "design.vhd" packagedComponent).toOption.any (fun t =>
    t.namedUnits = [(⟨work, [Bytes.ofString "Top"]⟩, .entity, 3), (⟨work, [Bytes.ofString "p"]⟩, .package, 1),
      (⟨work, [Bytes.ofString "p", Bytes.ofString "C"]⟩, .component, 2)]) = true by
      rw [packagedComponent, Bytes.ofString_ofList]
      decide +kernel)
  have units : t.namedUnits = _ := of_decide_eq_true found
  obtain ⟨_, _, lookup⟩ := keys_identify_units {} [t]
  have listed : namedUnits [t] = t.namedUnits.map fun (unit, kind, id) =>
      (unit, ⟨kind, t.path, (t.span id).start.line + 1, ⟨firstFile, id⟩⟩) := by simp [namedUnits]
  rw [units] at listed
  have plain : ∀ unit ∈ namedUnits [t], unit.1.Plain := by
    simp only [listed, List.map_cons, List.map_nil, List.forall_mem_cons, List.not_mem_nil, false_implies, implies_true,
      and_true]
    exact ⟨UnitName.plain_of_check (by decide +kernel), UnitName.plain_of_check (by decide +kernel),
      UnitName.plain_of_check (by decide +kernel)⟩
  let top : UnitName := ⟨Bytes.ofString "Work", [Bytes.ofString "TOP"]⟩
  let component : UnitName := ⟨Bytes.ofString "WORK", [Bytes.ofString "P", Bytes.ofString "c"]⟩
  have topFound := (lookup plain top (UnitName.plain_of_check (by decide +kernel))).2 _ rfl
  have componentFound := (lookup plain component (UnitName.plain_of_check (by decide +kernel))).1
  have others : (⟨work, [Bytes.ofString "p", Bytes.ofString "C"]⟩ : UnitName).same top = false ∧
      (⟨work, [Bytes.ofString "p"]⟩ : UnitName).same top = false ∧
      (⟨work, [Bytes.ofString "Top"]⟩ : UnitName).same top = true ∧
      (⟨work, [Bytes.ofString "p", Bytes.ofString "C"]⟩ : UnitName).same component = true := by decide +kernel
  obtain ⟨notTop, notTop', isTop, isComponent⟩ := others
  refine ⟨t, parsed, topFound.1.trans ?_, (congrArg (Option.map Symbol.ref) componentFound).trans ?_⟩
  · rw [lastNamed?, listed]
    simp [notTop, notTop', isTop]
  · rw [lastNamed?, listed]
    simp [isComponent]

end Project
end DesignLint
