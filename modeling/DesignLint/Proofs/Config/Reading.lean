import Mathlib.Data.List.Nodup
import DesignLint.Proofs.Config.Options
import DesignLint.Proofs.Contract.Fits

/-! Reading a configuration file that states options. Since each option is stated at most once, a reader finds its
value wherever it stands. From JSON the options come as they are, with nothing in place of what is left out; from
settings they come on top of the default configuration. -/
namespace DesignLint

namespace Named

variable {α : Type} {members members' : List (String × α)}

theorem insert_comm {name other : String} (ne : name ≠ other) (value value' : α) (values : Named α) :
    insert name value (insert other value' values) = insert other value' (insert name value values) := by
  have total : name < other ∨ other < name := by
    by_cases lt : name < other
    · exact .inl lt
    · exact .inr (String.not_le.mp fun le => ne (String.le_antisymm le (String.not_lt.mp lt)))
  have trans {a b c : String} : a < b → b < c → a < c := String.lt_trans
  have irrefl (a : String) : ¬ a < a := String.lt_irrefl a
  induction values with
  | nil => grind [insert]
  | cons m rest ih => grind [insert]

/-- The order of members under different names does not matter. -/
theorem ofList_perm (perm : members.Perm members') (distinct : (members.map Prod.fst).Nodup) :
    ofList members = ofList members' := by
  refine perm.foldl_eq' (fun m listed m' listed' values => ?_) []
  by_cases same : m.1 = m'.1
  · rw [List.inj_on_of_nodup_map distinct listed listed' same]
  · exact insert_comm (Ne.symm same) ..

end Named

/-- Whether no two names are taken for one another. -/
def areTold (names : List String) : Bool := decide (names.Pairwise fun a b => sameFold a b = false)

section Stated

variable {α : Type} {fields : List (String × Option α)} {stated : List (String × α)}

theorem sameFold_self (a : String) : sameFold a a = true := by simp [sameFold]

theorem sameFold_comm (a b : String) : sameFold a b = sameFold b a := by
  rw [sameFold, sameFold, Bool.beq_comm]

theorem Stated.names (holds : Stated fields stated) : ∀ m ∈ stated, m.1 ∈ fields.map Prod.fst := by
  intro m member
  obtain ⟨f, listed, same⟩ := List.mem_filterMap.mp (holds.mem_iff.mp member)
  obtain ⟨_, _, rfl⟩ := Option.map_eq_some_iff.mp same
  exact List.mem_map_of_mem listed

/-- The value of a field is all that is stated under its name. -/
theorem Stated.values (holds : Stated fields stated) (apart : areTold (fields.map Prod.fst) = true)
    {name : String} {value : Option α} (listed : (name, value) ∈ fields) :
    (stated.filter fun m => sameFold name m.1).map Prod.snd = value.toList := by
  have told := of_decide_eq_true apart
  have canonical : ((fields.filterMap fun f => f.2.map (Prod.mk f.1)).filter fun m => sameFold name m.1).map Prod.snd =
      value.toList := by
    clear holds apart
    induction fields with
    | nil => contradiction
    | cons f fields ih =>
      obtain ⟨other, value'⟩ := f
      rw [List.map_cons, List.pairwise_cons] at told
      rcases List.mem_cons.mp listed with here | later
      · cases here
        have rest : (fields.filterMap fun f => f.2.map (Prod.mk f.1)).filter (fun m => sameFold name m.1) = [] := by
          refine List.filter_eq_nil_iff.mpr fun m member => ?_
          obtain ⟨f, listed, same⟩ := List.mem_filterMap.mp member
          obtain ⟨_, _, rfl⟩ := Option.map_eq_some_iff.mp same
          simp [told.1 f.1 (List.mem_map_of_mem listed)]
        cases value with
        | none => simpa using rest
        | some a => simp [sameFold_self, rest]
      · have differs : sameFold name other = false := by
          rw [sameFold_comm]
          exact told.1 name (List.mem_map_of_mem later)
        rw [← ih later told.2]
        cases value' <;> simp [differs]
  have perm := (holds.filter fun m => sameFold name m.1).map Prod.snd
  rw [canonical] at perm
  cases value with
  | none => exact List.perm_nil.mp perm
  | some a => exact List.perm_singleton.mp perm

theorem Stated.lookup (holds : Stated fields stated) (apart : areTold (fields.map Prod.fst) = true)
    {name : String} {value : Option α} (listed : (name, value) ∈ fields) : stated.lookup name = value := by
  have values := holds.values apart listed
  have found (a : α) (member : (name, a) ∈ stated) : value = some a := by
    have among : a ∈ value.toList := by
      rw [← values]
      exact List.mem_map.mpr ⟨(name, a), List.mem_filter.mpr ⟨member, sameFold_self name⟩, rfl⟩
    exact Option.mem_toList.mp among
  cases there : stated.lookup name with
  | some a =>
    obtain ⟨_, _, rfl, _⟩ := List.lookup_eq_some_iff.mp there
    exact (found a (by simp)).symm
  | none =>
    cases value with
    | none => rfl
    | some a =>
      have member : (name, a) ∈ stated := holds.mem_iff.mpr (List.mem_filterMap.mpr ⟨_, listed, rfl⟩)
      have missing := List.lookup_eq_none_iff.mp there _ member
      simp at missing

end Stated

namespace Fill

variable {α : Type} {members : List (String × Json)} {fields : List (String × Option Json)}

theorem record_object (make : List (String × Json) → Option α) (members : List (String × Json)) :
    record make [.object members] = make members := by
  change (some (members ++ [])).bind make = _
  rw [List.append_nil]
  rfl

/-- A record is made from what is stated of its fields, even if it is missing. -/
theorem exists_record {j : Option Json} (states : Json.States fields j) :
    ∃ members, Stated fields members ∧ ∀ make : List (String × Json) → Option α, record make j.toList = make members := by
  cases states with
  | object stated => exact ⟨_, stated, fun make => record_object make _⟩
  | missing nothing => exact ⟨[], nothing, fun make => rfl⟩

theorem field_stated (holds : Stated fields members) (apart : areTold (fields.map Prod.fst) = true) {name : String}
    {value : Option Json} (listed : (name, value) ∈ fields) (fill : Fill α) :
    field name fill members = fill value.toList := by
  rw [field, holds.values apart listed]

theorem text_ofString (s : String) : text [.ofString s] = some s := by
  change ((some (Bytes.ofString s)).map Bytes.decode).bind some = some s
  rw [Option.map_some, Bytes.decode_ofString]
  rfl

theorem text_stated (s : Option String) : text ((s.map .text).map OptionValue.toJson).toList = some (s.getD "") := by
  cases s with
  | none => rfl
  | some s => exact text_ofString s

theorem flag_stated (b : Option Bool) : flag ((b.map .flag).map OptionValue.toJson).toList = some (b.getD false) := by
  cases b <;> rfl

theorem optional_flag_stated (b : Option Bool) :
    optional flag ((b.map .flag).map OptionValue.toJson).toList = some b := by
  cases b <;> rfl

theorem integer_stated (n : Option Int) :
    integer ((n.map .whole).map OptionValue.toJson).toList = (some (n.getD 0)).filter fitsWord := by
  cases n with
  | none => rfl
  | some n =>
    change ((Json.ofInt n).int?.filter fitsWord).bind some = _
    rw [Json.int?_ofInt, Option.bind_fun_some]
    rfl

/-- The items of one list, each read by itself. -/
theorem items_array {fill : Fill α} {xs : List Json} {ys : List α} (read : (xs.mapM fun j => fill [j]) = some ys)
    (length : ys.length = xs.length) : items fill [.array xs] = some ys := by
  have columns : ontoColumns xs [] = xs.map fun j => [j] := by cases xs <;> rfl
  have filled : (ontoColumns xs []).mapM fill = some ys := by rw [columns, List.mapM_map]; exact read
  change ((ontoColumns xs []).mapM fill).bind (fun filled => some (filled.take xs.length)) = _
  rw [filled, Option.bind_some, ← length, List.take_length]

theorem list?_array {fill : Fill α} {xs : List Json} {ys : List α} (read : (xs.mapM fun j => fill [j]) = some ys)
    (length : ys.length = xs.length) : list? fill [.array xs] = some (some ys) := by
  cases xs with
  | nil => rw [List.length_eq_zero_iff.mp length]; rfl
  | cons x xs =>
    change (items fill [.array (x :: xs)]).map some = _
    rw [items_array read length, Option.map_some]

theorem list_array {fill : Fill α} {xs : List Json} {ys : List α} (read : (xs.mapM fun j => fill [j]) = some ys)
    (length : ys.length = xs.length) : list fill [.array xs] = some ys := by
  rw [list, list?_array read length]
  rfl

/-- The members of one object, each read by itself. -/
theorem named?_object {fill : Fill α} {members : List (String × Json)} {entries : List (String × α)}
    (read : (members.mapM fun m => (fill [m.2]).map (Prod.mk m.1)) = some entries) :
    named? fill [.object members] = some (some (Named.ofList entries)) := by
  change ((members ++ []).mapM fun m : String × Json => (fill [m.2]).map (Prod.mk m.1)).bind _ = _
  rw [List.append_nil, read]
  rfl

end Fill

/-- Things that are written one by one are read one by one. -/
theorem mapM_eq_of_forall₂ {α β γ : Type} {related : α → β → Prop} {read : β → Option γ} {value? : α → Option γ}
    (each : ∀ a b, related a b → read b = value? a) {as : List α} {bs : List β} (all : List.Forall₂ related as bs) :
    bs.mapM read = as.mapM value? := by
  induction all with
  | nil => rfl
  | cons first _ ih => rw [List.mapM_cons, List.mapM_cons, each _ _ first, ih]

theorem mapM_of_forall₂ {α β γ : Type} {related : α → β → Prop} {read : β → Option γ} {value : α → γ}
    (each : ∀ a b, related a b → read b = some (value a)) {as : List α} {bs : List β}
    (all : List.Forall₂ related as bs) : bs.mapM read = some (as.map value) :=
  (mapM_eq_of_forall₂ each all).trans List.mapM_pure

theorem mapM_map_of_eq {α β γ : Type} (write : α → β) (value : α → γ) {read : β → Option γ}
    (each : ∀ a, read (write a) = some (value a)) (as : List α) : (as.map write).mapM read = some (as.map value) :=
  mapM_of_forall₂ (fun a b (same : b = write a) => same ▸ each a)
    (List.forall₂_map_right_iff.mpr (List.forall₂_same.mpr fun _ _ => rfl))

namespace Fill

theorem list?_text_stated (l : Option (List String)) :
    list? text ((l.map .texts).map OptionValue.toJson).toList = some l := by
  cases l with
  | none => rfl
  | some l =>
    have read : ((l.map Json.ofString).mapM fun j => text [j]) = some (l.map id) := mapM_map_of_eq Json.ofString id text_ofString l
    rw [List.map_id] at read
    exact list?_array read (by simp)

theorem list_text_stated (l : Option (List String)) :
    list text ((l.map .texts).map OptionValue.toJson).toList = some (l.getD []) := by
  rw [list, list?_text_stated]
  rfl

theorem named_text_stated (l : Option (List (String × String))) :
    named text ((l.map .named).map OptionValue.toJson).toList = some ((l.map Named.ofList).getD []) := by
  cases l with
  | none => rfl
  | some l =>
    have read : ((l.map fun m => (m.1, Json.ofString m.2)).mapM fun m => (text [m.2]).map (Prod.mk m.1)) = some (l.map id) :=
      mapM_map_of_eq _ id (fun m => by rw [text_ofString]; rfl) l
    rw [List.map_id] at read
    change (named? text [.object _]).map _ = _
    rw [named?_object read]
    rfl

end Fill

/-! ### From JSON -/

/-- A library is read from a member that states it. -/
theorem LibraryOptions.InMember.read {l : LibraryOptions} {m : String × Json} (stated : l.InMember m) :
    (LibrarySettings.fill [m.2]).map (Prod.mk m.1) = some (l.name, l.settings) := by
  obtain ⟨members, rfl, holds⟩ := stated
  have apart : areTold ((ConfigOption.members l.options).map Prod.fst) = true :=
    show areTold ["files", "exclude", "isThirdParty"] = true by decide
  have field {α : Type} {name : String} {value : Option Json} (fill : Fill α)
    (listed : (name, value) ∈ ConfigOption.members l.options) := Fill.field_stated holds apart listed fill
  rw [LibrarySettings.fill, Fill.record_object, field _ (.head _), field _ (.tail _ (.head _)),
    field _ (.tail _ (.tail _ (.head _))), Fill.list?_text_stated, Fill.list_text_stated, Fill.flag_stated]
  rfl

/-- An explicit file is read from an object that states it. -/
theorem FileOptions.InObject.read {f : FileOptions} {j : Json} (stated : f.InObject j) :
    FileSettings.fill [j] = some f.settings := by
  obtain ⟨members, rfl, holds⟩ := stated
  have apart : areTold ((("file", some (Json.ofString f.file)) :: ConfigOption.members f.options).map Prod.fst) = true :=
    show areTold ["file", "library", "language", "isThirdParty"] = true by decide
  have field {α : Type} {name : String} {value : Option Json} (fill : Fill α)
    (listed : (name, value) ∈ ("file", some (Json.ofString f.file)) :: ConfigOption.members f.options) :=
    Fill.field_stated holds apart listed fill
  rw [FileSettings.fill, Fill.record_object, field _ (.head _), field _ (.tail _ (.head _)),
    field _ (.tail _ (.tail _ (.head _))), field _ (.tail _ (.tail _ (.tail _ (.head _)))), Option.toList_some,
    Fill.text_ofString, Fill.text_stated, Fill.text_stated, Fill.flag_stated]
  rfl

/-- Libraries are read from an object that states them in any order. -/
theorem LibraryOptions.InJson.read {libraries : List LibraryOptions} {j : Option Json} (stated : InJson libraries j)
    (distinct : (libraries.map LibraryOptions.name).Nodup) : Fill.named? LibrarySettings.fill j.toList =
      some (if libraries.isEmpty then none else some (Named.ofList (libraries.map fun l => (l.name, l.settings)))) := by
  cases stated with
  | missing nothing => rw [nothing]; rfl
  | object stated order each =>
    have read := mapM_of_forall₂ (fun l m (stated : InMember l m) => stated.read) each
    have sorted := Named.ofList_perm (order.map fun l => (l.name, l.settings))
      (by simpa [List.map_map, Function.comp_def] using (order.map _).nodup_iff.mpr distinct)
    rw [List.isEmpty_eq_false_iff.mpr stated, Option.toList_some, Fill.named?_object read, sorted]
    rfl

/-- Explicit files are read from a list that states them. -/
theorem FileOptions.InJson.read {files : List FileOptions} {j : Option Json} (stated : InJson files j) :
    Fill.list FileSettings.fill j.toList = some (files.map settings) := by
  cases stated with
  | missing nothing => rw [nothing]; rfl
  | list each =>
    exact Fill.list_array (mapM_of_forall₂ (fun f j (stated : InObject f j) => stated.read) each) (by simp [each.length_eq])

namespace Options

variable {p : Options}

theorem fill_lint {j : Option Json} (states : Json.States (ConfigOption.members p.lint) j) :
    LintSettings.fill j.toList = some
      { rules := (p.rules.map Named.ofList).getD []
        ignorePatterns := p.ignorePatterns.getD []
        ignoreRegions := p.ignoreRegions.getD false
        clockEdgePattern := p.clockEdgePattern.getD ""
        resetPattern := p.resetPattern.getD "" } := by
  obtain ⟨members, holds, record⟩ := Fill.exists_record states
  have apart : areTold ((ConfigOption.members p.lint).map Prod.fst) = true :=
    show areTold ["rules", "ignorePatterns", "ignoreRegions", "clockEdgePattern", "resetPattern"] = true by
      decide
  have field {α : Type} {name : String} {value : Option Json} (fill : Fill α)
    (listed : (name, value) ∈ ConfigOption.members p.lint) := Fill.field_stated holds apart listed fill
  rw [LintSettings.fill, record, field _ (.head _), field _ (.tail _ (.head _)),
    field _ (.tail _ (.tail _ (.head _))), field _ (.tail _ (.tail _ (.tail _ (.head _)))),
    field _ (.tail _ (.tail _ (.tail _ (.tail _ (.head _))))), Fill.named_text_stated, Fill.list_text_stated,
    Fill.flag_stated, Fill.text_stated, Fill.text_stated]
  rfl

theorem fill_cache {j : Option Json} (states : Json.States (ConfigOption.members p.cache) j) :
    CacheSettings.fill j.toList = some ⟨p.cacheEnabled, p.cacheDirectory.getD ""⟩ := by
  obtain ⟨members, holds, record⟩ := Fill.exists_record states
  have apart : areTold ((ConfigOption.members p.cache).map Prod.fst) = true :=
    show areTold ["enabled", "dir"] = true by decide
  have field {α : Type} {name : String} {value : Option Json} (fill : Fill α)
    (listed : (name, value) ∈ ConfigOption.members p.cache) := Fill.field_stated holds apart listed fill
  rw [CacheSettings.fill, record, field _ (.head _), field _ (.tail _ (.head _)), Fill.optional_flag_stated,
    Fill.text_stated]
  rfl

theorem fill_analysis {j cache : Option Json}
    (states : Json.States (ConfigOption.members p.analysis ++ [("cache", cache)]) j)
    (cached : Json.States (ConfigOption.members p.cache) cache) : AnalysisSettings.fill j.toList =
      ((some (p.maxParallelFiles.getD 0)).filter fitsWord).map fun parallel =>
        ⟨parallel, p.followLibraryUse.getD false, p.cacheEnabled, p.cacheDirectory.getD ""⟩ := by
  obtain ⟨members, holds, record⟩ := Fill.exists_record states
  have apart : areTold ((ConfigOption.members p.analysis ++ [("cache", cache)]).map Prod.fst) = true :=
    show areTold ["maxParallelFiles", "followLibraryUse", "cache"] = true by decide
  have field {α : Type} {name : String} {value : Option Json} (fill : Fill α)
    (listed : (name, value) ∈ ConfigOption.members p.analysis ++ [("cache", cache)]) :=
    Fill.field_stated holds apart listed fill
  rw [AnalysisSettings.fill, record, field _ (.head _), field _ (.tail _ (.head _)),
    field _ (.tail _ (.tail _ (.head _))), Fill.integer_stated, Fill.flag_stated, fill_cache cached]
  cases (some (p.maxParallelFiles.getD 0)).filter fitsWord <;> rfl

/-- The configuration that is read from JSON: an option that is left out leaves nothing in its place. -/
def unfilled (p : Options) : Config where
  standard := p.standard.getD ""
  files := p.files.map FileOptions.settings
  libraries :=
    if p.libraries.isEmpty then none else some (Named.ofList (p.libraries.map fun l => (l.name, l.settings)))
  lint :=
    { rules := (p.rules.map Named.ofList).getD []
      ignorePatterns := p.ignorePatterns.getD []
      ignoreRegions := p.ignoreRegions.getD false
      clockEdgePattern := p.clockEdgePattern.getD ""
      resetPattern := p.resetPattern.getD "" }
  analysis :=
    ⟨p.maxParallelFiles.getD 0, p.followLibraryUse.getD false, p.cacheEnabled, p.cacheDirectory.getD ""⟩

theorem ofJson?_eq {j : Json} (stated : p.InJson j) (distinct : (p.libraries.map LibraryOptions.name).Nodup) :
    Config.ofJson? j = if fitsWord (p.maxParallelFiles.getD 0) then some p.unfilled else none := by
  cases stated with
  | @object members libraries files lint analysis cache holds inLibraries inFiles inLint inAnalysis inCache =>
    have apart : areTold ((ConfigOption.members p.outer ++
        [("files", files), ("libraries", libraries), ("lint", lint), ("analysis", analysis)]).map Prod.fst) = true :=
      show areTold ["standard", "files", "libraries", "lint", "analysis"] = true by decide
    have field {α : Type} {name : String} {value : Option Json} (fill : Fill α)
      (listed : (name, value) ∈ ConfigOption.members p.outer ++
        [("files", files), ("libraries", libraries), ("lint", lint), ("analysis", analysis)]) :=
      Fill.field_stated holds apart listed fill
    rw [Config.ofJson?, Config.fill, Fill.record_object, field _ (.head _), field _ (.tail _ (.head _)),
      field _ (.tail _ (.tail _ (.head _))), field _ (.tail _ (.tail _ (.tail _ (.head _)))),
      field _ (.tail _ (.tail _ (.tail _ (.tail _ (.head _))))), Fill.text_stated, inFiles.read,
      inLibraries.read distinct, fill_lint inLint, fill_analysis inAnalysis inCache]
    by_cases fits : fitsWord (p.maxParallelFiles.getD 0) = true
    · rw [if_pos fits, Option.filter_some, if_pos fits]
      rfl
    · rw [if_neg fits, Option.filter_some, if_neg fits]
      rfl

end Options

/-! ### From settings -/

namespace Numeral

/-- Zeros that are taken off the digits go into the exponent. -/
theorem exists_trim (steps : Nat) {n : Numeral} (nonzero : n.digits ≠ 0) : ∃ digits zeros : Nat,
    n.trim steps = { n with digits, exponent := n.exponent + zeros } ∧ digits ≠ 0 ∧ n.digits = digits * 10 ^ zeros := by
  induction steps generalizing n with
  | zero => exact ⟨n.digits, 0, by simp [trim], nonzero, by simp⟩
  | succ steps ih =>
    rw [trim, if_neg nonzero]
    split
    · next divides =>
      have smaller : n.digits / 10 ≠ 0 := by omega
      obtain ⟨digits, zeros, trimmed, nonzero', same⟩ :=
        @ih { n with digits := n.digits / 10, exponent := n.exponent + 1 } smaller
      refine ⟨digits, zeros + 1, ?_, nonzero', ?_⟩
      · rw [trimmed]
        congr 1
        simp only [Int.natCast_add, Int.natCast_one]
        omega
      · rw [Nat.pow_succ, ← Nat.mul_assoc, ← same]
        simp only
        omega
    · exact ⟨n.digits, 0, by simp, nonzero, by simp⟩

end Numeral

namespace Settings

/-- A whole number is read as it is if it has 64 bits. -/
theorem Quantity.int?_ofInt (n : Int) : (ofInt n).int? = (some n).filter fitsWord := by
  by_cases zero : n = 0
  · subst zero
    rfl
  · have nonzero : n.natAbs ≠ 0 := Int.natAbs_ne_zero.mpr zero
    obtain ⟨digits, zeros, reduced, positive, same⟩ := Numeral.exists_trim (n.natAbs.log2 + 1)
      (n := ⟨n < 0, n.natAbs, 0⟩) nonzero
    simp only at same
    have sign : (if n < 0 then -(n.natAbs : Int) else n.natAbs) = n := by omega
    rw [ofInt, Numeral.reduced, reduced, int?]
    by_cases small : zeros < 20
    · have inside : ((0 : Int) ≤ 0 + zeros && 0 + (zeros : Int) < 20) = true := by simp; omega
      have power : Nat.pow 10 (0 + (zeros : Int)).toNat = 10 ^ zeros := by simp
      simp only [inside, if_true, power, ← same, decide_eq_true_eq]
      exact congrArg (fun m => (some m).filter fitsWord) sign
    · have large : 10 ^ 20 ≤ n.natAbs := by
        rw [same]
        calc 10 ^ 20 ≤ 10 ^ zeros := Nat.pow_le_pow_right (by decide) (by omega)
          _ ≤ digits * 10 ^ zeros := Nat.le_mul_of_pos_left _ (Nat.pos_of_ne_zero positive)
      have unfit : fitsWord n = false := by
        rw [fitsWord]
        simp only [Bool.and_eq_false_iff, decide_eq_false_iff_not]
        omega
      have outside : ((0 : Int) ≤ 0 + zeros && 0 + (zeros : Int) < 20) = false := by simp; omega
      simp only [outside, Option.filter_some, unfit]
      rfl

/-- Decimal digits stand for the whole number. -/
example : ((value? 3 "-120".toList).bind fun read => read.1.quantity?) = some (.ofInt (-120)) := by decide

theorem Value.texts?_texts (l : List String) : (Value.tuple (l.map .text)).texts? = some (some l) := by
  have read : (l.map Value.text).mapM Value.text? = some (l.map id) := mapM_map_of_eq Value.text id (fun _ => rfl) l
  rw [List.map_id] at read
  exact congrArg (Option.map some) read

namespace Body

variable {b : Body} {name : String}

theorem value?_eq {α : Type} {v : Option Value} (there : b.attributes.lookup name = v) (read : Value → Option α)
    (missing : α) : b.value? name read missing = v.elim (some missing) read := by
  rw [value?, there]
  cases v <;> rfl

theorem text?_stated {s : Option String} (there : b.attributes.lookup name = (s.map .text).map OptionValue.toSetting) :
    b.text? name = some (s.getD "") := by
  rw [text?, value?_eq there]
  cases s <;> rfl

theorem flag?_stated {f : Option Bool} (there : b.attributes.lookup name = (f.map .flag).map OptionValue.toSetting) :
    b.flag? name = some (f.getD false) := by
  rw [flag?, value?_eq there]
  cases f <;> rfl

theorem nullableFlag?_stated {f : Option Bool}
    (there : b.attributes.lookup name = (f.map .flag).map OptionValue.toSetting) : b.nullableFlag? name = some f := by
  rw [nullableFlag?, value?_eq there]
  cases f <;> rfl

theorem texts?_stated {l : Option (List String)}
    (there : b.attributes.lookup name = (l.map .texts).map OptionValue.toSetting) : b.texts? name = some l := by
  rw [texts?, value?_eq there]
  cases l with
  | none => rfl
  | some l => exact Value.texts?_texts l

theorem named?_stated {l : Option (List (String × String))}
    (there : b.attributes.lookup name = (l.map .named).map OptionValue.toSetting) :
    b.value? name Value.named? none = some l := by
  rw [value?_eq there]
  cases l with
  | none => rfl
  | some l =>
    have read : ((l.map fun m => (m.1, Value.text m.2)).mapM fun m => (Value.text? m.2).map fun t => (m.1, t)) =
        some (l.map id) := mapM_map_of_eq (fun m => (m.1, Value.text m.2)) id (fun _ => rfl) l
    rw [List.map_id] at read
    exact congrArg (Option.map some) read

theorem whole?_stated {n : Option Int} (there : b.attributes.lookup name = (n.map .whole).map OptionValue.toSetting) :
    b.value? name Value.int? 0 = (some (n.getD 0)).filter fitsWord := by
  rw [value?_eq there]
  cases n with
  | none => rfl
  | some n => exact Quantity.int?_ofInt n

end Body

/-- A body that states fields holds no other attribute. -/
theorem Body.of?_stated {fields : List (String × Option Value)} {attributes : List (String × Value)}
    (holds : Stated fields attributes) {blocks : List Block} {kinds : List String} (known : ∀ b ∈ blocks, b.kind ∈ kinds) :
    Body.of? attributes blocks (fields.map Prod.fst) kinds = some ⟨attributes, blocks⟩ := by
  have names : attributes.all (fun a => (fields.map Prod.fst).contains a.1) = true :=
    List.all_eq_true.mpr fun a member => List.contains_iff_mem.mpr (holds.names a member)
  have blocks_ : blocks.all (fun b => kinds.contains b.kind) = true :=
    List.all_eq_true.mpr fun b member => List.contains_iff_mem.mpr (known b member)
  rw [Body.of?, names, blocks_]
  rfl

theorem States.kinds {kind : String} {fields : List (String × Option Value)} {inner blocks : List Block}
    (states : States kind fields inner blocks) : ∀ b ∈ blocks, b.kind = kind := by
  cases states with
  | block stated => exact fun b member => by rw [List.mem_singleton.mp member]; rfl
  | missing => exact fun b member => nomatch member

/-- A single block is read from its attributes. Without one the old value stays, as it does with an empty one. -/
theorem States.exists_read {kind : String} {fields : List (String × Option Value)} {inner blocks : List Block}
    (states : States kind fields inner blocks) {b : Body} (same : b.blocks.filter (·.kind = kind) = blocks) :
    ∃ attributes found, Stated fields attributes ∧ b.single? kind = some found ∧
      ∀ {α : Type} (read : Block → Option α) (old : α), read (.mk kind [] [] []) = some old →
        found.elim (some old) read = read (.mk kind [] attributes inner) := by
  cases states with
  | block stated => exact ⟨_, _, stated, by rw [Body.single?, same], fun read old _ => rfl⟩
  | missing nothing empty =>
    exact ⟨[], none, nothing, by rw [Body.single?, same], fun read old unchanged => by rw [empty, unchanged]; rfl⟩

end Settings

open Settings

/-- A library is read from a block that states it, unless its files are left out. -/
theorem LibraryOptions.InBlock.read {l : LibraryOptions} {b : Block} (stated : l.InBlock b) :
    libraryOf? b = l.files.map fun _ => (l.name, l.settings) := by
  obtain ⟨attributes, rfl, holds⟩ := stated
  have apart : areTold ((ConfigOption.attributes l.options).map Prod.fst) = true :=
    show areTold ["files", "exclude", "third_party"] = true by decide
  have lookup {name : String} {value : Option Value} (listed : (name, value) ∈ ConfigOption.attributes l.options) :=
    holds.lookup apart listed
  have body : Body.ofBlock? (.mk "library" [l.name] attributes []) 1 ["files", "exclude", "third_party"] [] =
      some ⟨attributes, []⟩ := Body.of?_stated holds fun _ member => nomatch member
  have files := lookup (.head _)
  rw [libraryOf?, body]
  simp only [bind, Option.bind, Block.attributes]
  rw [files, Body.texts?_stated (lookup (.tail _ (.head _))), Body.flag?_stated (lookup (.tail _ (.tail _ (.head _))))]
  cases stated : l.files with
  | none => rfl
  | some l' =>
    simp only [Option.map_some, OptionValue.toSetting, Value.texts?_texts]
    rw [settings, stated]
    rfl

/-- An explicit file is read from a block that states it. -/
theorem FileOptions.InBlock.read {f : FileOptions} {b : Block} (stated : f.InBlock b) : fileOf? b = some f.settings := by
  obtain ⟨attributes, rfl, holds⟩ := stated
  have apart : areTold ((ConfigOption.attributes f.options).map Prod.fst) = true :=
    show areTold ["library", "language", "third_party"] = true by decide
  have lookup {name : String} {value : Option Value} (listed : (name, value) ∈ ConfigOption.attributes f.options) :=
    holds.lookup apart listed
  have body : Body.ofBlock? (.mk "file" [f.file] attributes []) 1 ["library", "language", "third_party"] [] =
      some ⟨attributes, []⟩ := Body.of?_stated holds fun _ member => nomatch member
  rw [fileOf?, body]
  simp only [bind, Option.bind]
  rw [Body.text?_stated (lookup (.head _)), Body.text?_stated (lookup (.tail _ (.head _))),
    Body.flag?_stated (lookup (.tail _ (.tail _ (.head _))))]
  rfl

namespace Options

variable {p : Options} {attributes : List (String × Value)} {blocks inner : List Block}

theorem lintOf?_stated (holds : Stated (ConfigOption.attributes p.lint) attributes) :
    lintOf? (.mk "lint" [] attributes []) Config.default.lint = some p.config.lint := by
  have apart : areTold ((ConfigOption.attributes p.lint).map Prod.fst) = true :=
    show areTold ["rules", "ignore_patterns", "ignore_regions", "clock_edge_pattern", "reset_pattern"] = true by
      decide
  have lookup {name : String} {value : Option Value} (listed : (name, value) ∈ ConfigOption.attributes p.lint) :=
    holds.lookup apart listed
  have body : Body.ofBlock? (.mk "lint" [] attributes []) 0
      ["rules", "ignore_patterns", "ignore_regions", "clock_edge_pattern", "reset_pattern"] [] =
      some ⟨attributes, []⟩ := Body.of?_stated holds fun _ member => nomatch member
  rw [lintOf?, body]
  simp only [bind, Option.bind]
  rw [Body.named?_stated (lookup (.head _)), Body.texts?_stated (lookup (.tail _ (.head _))),
    Body.nullableFlag?_stated (lookup (.tail _ (.tail _ (.head _)))),
    Body.text?_stated (lookup (.tail _ (.tail _ (.tail _ (.head _))))),
    Body.text?_stated (lookup (.tail _ (.tail _ (.tail _ (.tail _ (.head _))))))]
  have rules (old : Named String) : p.rules.elim old Named.ofList = (p.rules.map Named.ofList).getD old := by
    cases p.rules <;> rfl
  simp only [rules]
  rfl

theorem cacheOf?_stated (holds : Stated (ConfigOption.attributes p.cache) attributes) :
    cacheOf? (.mk "cache" [] attributes []) Config.default.analysis.cache = some p.config.analysis.cache := by
  have apart : areTold ((ConfigOption.attributes p.cache).map Prod.fst) = true :=
    show areTold ["enabled", "dir"] = true by decide
  have lookup {name : String} {value : Option Value} (listed : (name, value) ∈ ConfigOption.attributes p.cache) :=
    holds.lookup apart listed
  have body : Body.ofBlock? (.mk "cache" [] attributes []) 0 ["enabled", "dir"] [] = some ⟨attributes, []⟩ :=
    Body.of?_stated holds fun _ member => nomatch member
  rw [cacheOf?, body]
  simp only [bind, Option.bind]
  rw [Body.nullableFlag?_stated (lookup (.head _)), Body.text?_stated (lookup (.tail _ (.head _)))]
  have enabled (old : Option Bool) : (p.cacheEnabled <|> old) = p.cacheEnabled.or old := by cases p.cacheEnabled <;> rfl
  simp only [enabled]
  rfl

theorem analysisOf?_stated (holds : Stated (ConfigOption.attributes p.analysis) attributes)
    (cached : States "cache" (ConfigOption.attributes p.cache) [] inner) :
    analysisOf? (.mk "analysis" [] attributes inner) Config.default.analysis =
      if fitsWord (p.maxParallelFiles.getD 0) then some p.config.analysis else none := by
  have apart : areTold ((ConfigOption.attributes p.analysis).map Prod.fst) = true :=
    show areTold ["max_parallel_files", "follow_library_use"] = true by decide
  have lookup {name : String} {value : Option Value} (listed : (name, value) ∈ ConfigOption.attributes p.analysis) :=
    holds.lookup apart listed
  have body : Body.ofBlock? (.mk "analysis" [] attributes inner) 0 ["max_parallel_files", "follow_library_use"]
      ["cache"] = some ⟨attributes, inner⟩ :=
    Body.of?_stated holds fun b member => by rw [cached.kinds b member]; exact .head _
  have only : (Settings.Body.mk attributes inner).blocks.filter (·.kind = "cache") = inner :=
    List.filter_eq_self.mpr fun b member => decide_eq_true (cached.kinds b member)
  obtain ⟨attributes', found, holds', single, read⟩ := cached.exists_read only
  have cache := (read (cacheOf? · Config.default.analysis.cache) _ rfl).trans (cacheOf?_stated holds')
  rw [analysisOf?, body]
  simp only [bind, Option.bind]
  rw [Body.whole?_stated (lookup (.head _)), Body.nullableFlag?_stated (lookup (.tail _ (.head _))), single]
  by_cases fits : fitsWord (p.maxParallelFiles.getD 0) = true
  · rw [if_pos fits, Option.filter_some, if_pos fits]
    cases found with
    | none => exact congrArg (fun cache => some (AnalysisSettings.mk _ _ cache)) (Option.some.inj cache)
    | some b => exact congrArg (Option.bind · fun cache => some (AnalysisSettings.mk _ _ cache)) cache
  · rw [if_neg fits, Option.filter_some, if_neg fits]

/-- The names of libraries are different, so none is repeated. -/
theorem repeated?_of_nodup {seen names : List String} (distinct : names.Nodup) (new : ∀ name ∈ names, name ∉ seen) :
    Config.repeated? seen names = none := by
  induction names generalizing seen with
  | nil => rfl
  | cons name names ih =>
    obtain ⟨other, distinct⟩ := List.nodup_cons.mp distinct
    have fresh : seen.contains name = false := by simpa using new name List.mem_cons_self
    rw [Config.repeated?, fresh]
    refine ih distinct fun later listed => List.mem_cons.not.mpr (not_or.mpr ⟨fun same => other (same ▸ listed), ?_⟩)
    exact new later (List.mem_cons_of_mem _ listed)

/-- Whether the options can be read at all: the files of each library have to be listed, and numbers have 64 bits. -/
def isReadable (p : Options) : Bool :=
  p.libraries.all (·.files.isSome) && fitsWord (p.maxParallelFiles.getD 0)

theorem mapM_libraryOf? {libraries : List LibraryOptions} (stated : List.Forall₂ LibraryOptions.InBlock libraries blocks) :
    blocks.mapM libraryOf? = if libraries.all (·.files.isSome) then
      some (libraries.map fun l => (l.name, l.settings)) else none := by
  rw [mapM_eq_of_forall₂ (fun l b (stated : LibraryOptions.InBlock l b) => stated.read) stated]
  clear stated
  induction libraries with
  | nil => rfl
  | cons l libraries ih =>
    rw [List.mapM_cons, ih, List.all_cons]
    cases l.files with
    | none => rfl
    | some files => cases libraries.all (·.files.isSome) <;> rfl

theorem partsOf?_eq {text : String} (parsed : Settings.parse? text = some (attributes, blocks))
    (stated : p.InSettings attributes blocks) : Config.partsOf? text =
      if p.isReadable then
        some (p.libraries.map fun l => (l.name, l.settings), { p.config with libraries := Config.default.libraries })
      else none := by
  have body : Settings.Body.of? attributes blocks ["standard"] ["library", "file", "lint", "analysis"] =
      some ⟨attributes, blocks⟩ := Body.of?_stated stated.outer stated.kinds
  have standard : attributes.lookup "standard" = _ :=
    stated.outer.lookup (show areTold ["standard"] = true by decide) (.head _)
  obtain ⟨_, lintBlock, lints, lintSingle, lintRead⟩ := stated.lint.exists_read (b := ⟨attributes, blocks⟩) rfl
  obtain ⟨cache, cached, analysis⟩ := stated.analysis
  obtain ⟨_, analysisBlock, analyses, analysisSingle, analysisRead⟩ :=
    analysis.exists_read (b := ⟨attributes, blocks⟩) rfl
  have lint := (lintRead (lintOf? · Config.default.lint) Config.default.lint rfl).trans (lintOf?_stated lints)
  have analysis := (analysisRead (analysisOf? · Config.default.analysis) Config.default.analysis rfl).trans
    (analysisOf?_stated analyses cached)
  have files := mapM_of_forall₂ (fun f b (stated : FileOptions.InBlock f b) => stated.read) stated.files
  have parts : Config.partsOf? text =
      ((blocks.filter (·.kind = "library")).mapM libraryOf?).bind fun libraries =>
        (lintBlock.elim (some Config.default.lint) (lintOf? · Config.default.lint)).bind fun lint =>
          (analysisBlock.elim (some Config.default.analysis) (analysisOf? · Config.default.analysis)).bind fun analysis =>
            some (libraries, { Config.default with
              standard := p.config.standard, files := p.config.files, lint, analysis }) := by
    rw [Config.partsOf?, parsed]
    simp only [bind, Option.bind]
    rw [body]
    simp only
    rw [Body.text?_stated standard, files, lintSingle, analysisSingle]
    cases lintBlock <;> cases analysisBlock <;> rfl
  rw [parts, mapM_libraryOf? stated.libraries, lint, analysis, isReadable]
  cases p.libraries.all (·.files.isSome) <;> cases fitsWord (p.maxParallelFiles.getD 0) <;> rfl

/-- From settings that state them, options are read on top of the default configuration. -/
theorem ofSettings_eq {text : String} (parsed : Settings.parse? text = some (attributes, blocks))
    (stated : p.InSettings attributes blocks) (distinct : (p.libraries.map LibraryOptions.name).Nodup) :
    (Config.ofSettings text).toOption = if p.isReadable then some p.config else none := by
  rw [Config.ofSettings, partsOf?_eq parsed stated]
  cases p.isReadable with
  | false => rfl
  | true =>
    have names : (p.libraries.map fun l => (l.name, l.settings)).map Prod.fst = p.libraries.map LibraryOptions.name :=
      List.map_map ..
    have once : Config.repeated? [] (p.libraries.map LibraryOptions.name) = none :=
      repeated?_of_nodup distinct fun _ _ => List.not_mem_nil
    simp only [if_true, names, once]
    have files : p.config.files.isEmpty = p.files.isEmpty := List.isEmpty_map ..
    have libraries : (p.libraries.map fun l => (l.name, l.settings)).isEmpty = p.libraries.isEmpty := List.isEmpty_map ..
    rw [files, libraries]
    cases empty : p.libraries.isEmpty && p.files.isEmpty <;> simp [Except.toOption, config, empty]

end Options
end DesignLint
