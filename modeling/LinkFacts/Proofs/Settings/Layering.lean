import Mathlib
import LinkFacts.Proofs.Naming
import LinkFacts.Proofs.Text.Blank
import LinkFacts.Proofs.Text.Utf8
import LinkFacts.Settings.Load

/-!
# How layers override each other

For each key the strongest layer that has it decides, whatever the layers below say, and the other
keys are no business of that.  Only what has won is read, and it is read after all layers were laid
over each other.
-/

namespace LinkFacts
namespace Settings

open Naming (put lookup_put lookup_cons_ite)

/-! ## Laying layers over each other -/

namespace Layer

variable {upper lower layer : Layer} {key : String}

/-- The keys of a layer. -/
def keys (layer : Layer) : List String := layer.map Prod.fst

@[simp]
theorem keys_cons (entry : String × Value) (rest : Layer) :
    keys (entry :: rest) = entry.1 :: rest.keys := rfl

/-- It is all the same from which side one looks if no key repeats. -/
theorem lookup_reverse (distinct : layer.keys.Nodup) (key : String) :
    layer.reverse.lookup key = layer.lookup key := by
  induction layer with
  | nil => rfl
  | cons entry rest ih =>
      obtain ⟨first, value⟩ := entry
      obtain ⟨fresh, distinctRest⟩ := List.nodup_cons.mp distinct
      rw [List.reverse_cons, List.lookup_append, ih distinctRest, lookup_cons_ite, lookup_cons_ite]
      split
      · next same =>
        have missing : rest.lookup first = none :=
          List.lookup_eq_none_iff.mpr fun entry there => bne_iff_ne.mpr fun again =>
            fresh (List.mem_map.mpr ⟨entry, there, again.symm⟩)
        rw [same, missing]
        rfl
      · exact Option.or_none

/-- The last entry with a key decides. -/
theorem lookup_over_reverse (upper lower : Layer) (key : String) :
    (upper.over lower).lookup key = (upper.reverse.lookup key).or (lower.lookup key) := by
  unfold Layer.over
  induction upper generalizing lower with
  | nil => rfl
  | cons entry rest ih =>
      obtain ⟨first, value⟩ := entry
      rw [List.foldl_cons, ih, lookup_put, List.reverse_cons, List.lookup_append, lookup_cons_ite,
        Option.or_assoc]
      split <;> rfl

/-- The upper layer decides if it has the key. -/
theorem lookup_over (distinct : upper.keys.Nodup) (lower : Layer) (key : String) :
    (upper.over lower).lookup key = (upper.lookup key).or (lower.lookup key) := by
  rw [lookup_over_reverse, lookup_reverse distinct]

private theorem mem_keys_put {name : String} {value : Value} :
    key ∈ keys (put name value layer) ↔ key = name ∨ key ∈ layer.keys := by
  simp only [keys, put, List.map_cons, List.mem_cons, List.mem_map, List.mem_filter]
  constructor
  · rintro (same | ⟨entry, ⟨there, -⟩, rfl⟩)
    · exact .inl same
    · exact .inr ⟨entry, there, rfl⟩
  · rintro (same | ⟨entry, there, rfl⟩)
    · exact .inl same
    · by_cases same : entry.1 = name
      · exact .inl same
      · exact .inr ⟨entry, ⟨there, by simpa using same⟩, rfl⟩

/-- No key is lost. -/
theorem mem_keys_over : key ∈ (upper.over lower).keys ↔ key ∈ upper.keys ∨ key ∈ lower.keys := by
  unfold Layer.over
  induction upper generalizing lower with
  | nil => simp [keys]
  | cons entry rest ih =>
      rw [List.foldl_cons, ih, mem_keys_put, keys_cons, List.mem_cons]
      exact or_left_comm.trans or_assoc.symm

private theorem nodup_put (distinct : layer.keys.Nodup) (name : String) (value : Value) :
    (keys (put name value layer)).Nodup := by
  refine List.nodup_cons.mpr ⟨?_, distinct.sublist (List.filter_sublist.map Prod.fst)⟩
  simp

private theorem nodup_over (upper : Layer) (distinct : lower.keys.Nodup) :
    (upper.over lower).keys.Nodup := by
  unfold Layer.over
  induction upper generalizing lower with
  | nil => exact distinct
  | cons entry rest ih => exact ih (nodup_put distinct entry.1 entry.2)

theorem ofEntries_eq_over (entries : List (String × Value)) :
    ofEntries entries = Layer.over entries [] :=
  rfl

private theorem nodup_ofEntries (entries : List (String × Value)) :
    (ofEntries entries).keys.Nodup :=
  nodup_over entries List.nodup_nil

/-- What entries say of a key is what the last of them with this key says. -/
theorem lookup_ofEntries_eq_some_iff {entries : List (String × Value)} {value : Value} :
    (ofEntries entries).lookup key = some value ↔ ∃ earlier later,
      entries = earlier ++ (key, value) :: later ∧ key ∉ keys later := by
  rw [ofEntries_eq_over, lookup_over_reverse, List.lookup_nil, Option.or_none,
    List.lookup_eq_some_iff]
  constructor
  · rintro ⟨later, earlier, parts, fresh⟩
    refine ⟨earlier.reverse, later.reverse, ?_, ?_⟩
    · rw [← List.reverse_reverse entries, parts, List.reverse_append, List.reverse_cons,
        List.append_assoc, List.singleton_append]
    · simp only [keys, List.map_reverse, List.mem_reverse, List.mem_map, not_exists, not_and]
      intro entry there same
      have different := fresh entry there
      simp [same] at different
  · rintro ⟨earlier, later, rfl, fresh⟩
    refine ⟨later.reverse, earlier.reverse, ?_, ?_⟩
    · rw [List.reverse_append, List.reverse_cons, List.append_assoc, List.singleton_append]
    · intro entry there
      refine bne_iff_ne.mpr fun same => fresh ?_
      exact List.mem_map.mpr ⟨entry, List.mem_reverse.mp there, same.symm⟩

/-- Documents of all formats hold layers in which no key repeats. -/
theorem nodup_document {format : Format} {document : String} {layer : Layer}
    (parsed : format.layer? document = some layer) : layer.keys.Nodup := by
  cases format with
  | toml =>
      obtain ⟨entries, -, rfl⟩ := Option.map_eq_some_iff.mp parsed
      exact nodup_ofEntries entries
  | json =>
      simp only [Format.layer?, jsonLayer?] at parsed
      split at parsed
      · cases parsed
        exact nodup_ofEntries _
      · cases parsed
  | yaml =>
      simp only [Format.layer?, yamlLayer?, Yaml.layer?] at parsed
      split at parsed
      · cases parsed
      · cases parsed
        exact List.nodup_nil
      · next root _ =>
        cases root with
        | scalar tag plain text =>
            simp only [Yaml.rootLayer?] at parsed
            split at parsed
            · cases parsed
              exact List.nodup_nil
            · cases parsed
        | sequence tag items => cases parsed
        | mapping tag entries =>
            obtain ⟨read, -, rfl⟩ := Option.map_eq_some_iff.mp parsed
            exact nodup_ofEntries read

end Layer

/-! ## What the sources say -/

/-- The layer that a file holds which is written in a format. -/
inductive Written (reader : Files.Reader) (format : Format) (path : String) : Layer → Prop
  | parsed {bytes : List Nat} {text : List Char} {layer : Layer} (there : reader path = .ok bytes)
      (decoded : Text.decodeUtf8? bytes = some text)
      (parsed : format.layer? (String.ofList text) = some layer) :
      Written reader format path layer

/-- What the file of the user gives; nothing if there is no such file. -/
inductive UserGives (surroundings : Surroundings) : Layer → Prop
  | homeless (unknown : userFile? surroundings.environment = none) : UserGives surroundings []
  | missing {path : String} {fault : FileFault}
      (known : userFile? surroundings.environment = some path)
      (absent : surroundings.reader path = .error fault) : UserGives surroundings []
  | written {path : String} {layer : Layer}
      (known : userFile? surroundings.environment = some path)
      (written : Written surroundings.reader .toml path layer) : UserGives surroundings layer

/-- What the file gives that is asked for; it must be there, in a format that its name tells. -/
inductive AskedGives (surroundings : Surroundings) : Option String → Layer → Prop
  | nothing : AskedGives surroundings none []
  | written {path : String} {format : Format} {layer : Layer}
      (told : formatOf? path = some format)
      (written : Written surroundings.reader format path layer) :
      AskedGives surroundings (some path) layer

/-- The layers of all sources, the strongest first: the environment, the file that is asked for, and
the file of the user. -/
inductive Sources (surroundings : Surroundings) (path : Option String) : List Layer → Prop
  | given {asked user : Layer} (asks : AskedGives surroundings path asked)
      (uses : UserGives surroundings user) :
      Sources surroundings path [Environment.layer surroundings.environment, asked, user]

/-- The value that the strongest layer with a key gives to the key. -/
def winner? (layers : List Layer) (key : String) : Option Value := layers.findSome? (·.lookup key)

/-- What a setting is that was given a value or was not. -/
inductive Holds {α : Type} (Fits : Value → α → Prop) : Option Value → Option α → Prop
  | absent : Holds Fits none none
  /-- Somebody says that the setting has no value. -/
  | unset : Holds Fits (some .nothing) none
  | given {value : Value} {setting : α} (fits : Fits value setting) :
      Holds Fits (some value) (some setting)

/-- The value is the text of an address. -/
def Value.IsAddress (value : Value) (address : Address) : Prop :=
  ∃ text, value = .text text ∧ Address.ofText text = .ok address

/-- The value is a natural number that fits into 64 bits. -/
def Value.IsNatural (value : Value) (number : Nat) : Prop :=
  value = .integer number ∧ number < Nat.pow 2 64

/-- The value is a text. -/
def Value.IsText (value : Value) (text : String) : Prop := value = .text text

/-- All settings of a configuration are what they were given. -/
structure Gives (given : String → Option Value) (configuration : Configuration) : Prop where
  baseUrl : Holds Value.IsAddress (given baseUrlKey) configuration.baseUrl
  fetchTimeout : Holds Value.IsNatural (given fetchTimeoutKey) configuration.fetchTimeout
  template : Holds Value.IsText (given templateKey) configuration.template
  fixtures : Holds Value.IsText (given fixturesKey) configuration.fixtures

/-- Each setting was given something that it can be. -/
structure Acceptable (given : String → Option Value) : Prop where
  baseUrl : ∃ setting, Holds Value.IsAddress (given baseUrlKey) setting
  fetchTimeout : ∃ setting, Holds Value.IsNatural (given fetchTimeoutKey) setting
  template : ∃ setting, Holds Value.IsText (given templateKey) setting
  fixtures : ∃ setting, Holds Value.IsText (given fixturesKey) setting

/-- No layer has a key that is not the key of a setting. -/
def AllKnown (layers : List Layer) : Prop := ∀ layer ∈ layers, ∀ key ∈ layer.keys, key ∈ knownKeys

/-! ## The environment -/

namespace Environment

open Text (isBlank strip strip_of_none lowerAscii)

variable {environment : List (String × String)} {key name : String} {value : Value}

/-- A variable is called after a setting, in whatever case its letters are. -/
def CalledAfter (name key : String) : Prop :=
  name.toList.map lowerAscii = beginning ++ key.toList

private theorem nodup_layer (environment : List (String × String)) :
    (layer environment).keys.Nodup :=
  Layer.nodup_ofEntries _

/-- The last variable that gives a setting decides. -/
theorem lookup_layer_eq_some_iff : (layer environment).lookup key = some value ↔
    ∃ earlier name content later, environment = earlier ++ (name, content) :: later ∧
      entryOf? name content = some (key, value) ∧
      ∀ other ∈ later, ∀ given, entryOf? other.1 other.2 ≠ some (key, given) := by
  have silent (entries : List (String × String)) :
      key ∉ Layer.keys (entries.filterMap fun entry => entryOf? entry.1 entry.2) ↔
        ∀ other ∈ entries, ∀ given, entryOf? other.1 other.2 ≠ some (key, given) := by
    simp only [Layer.keys, List.mem_map, List.mem_filterMap, not_exists, not_and]
    constructor
    · intro absent other there given gives
      exact absent (key, given) ⟨other, there, gives⟩ rfl
    · rintro absent ⟨first, given⟩ ⟨other, there, gives⟩ rfl
      exact absent other there given gives
  unfold layer
  rw [Layer.lookup_ofEntries_eq_some_iff]
  constructor
  · rintro ⟨before, after, parts, fresh⟩
    obtain ⟨earlier, rest, rfl, -, more⟩ := List.filterMap_eq_append_iff.mp parts
    obtain ⟨skipped, ⟨name, content⟩, later, rfl, -, gives, rfl⟩ := List.filterMap_eq_cons_iff.mp more
    exact ⟨earlier ++ skipped, name, content, later, (List.append_assoc ..).symm, gives,
      (silent later).mp fresh⟩
  · rintro ⟨earlier, name, content, later, rfl, gives, absent⟩
    refine ⟨earlier.filterMap fun entry => entryOf? entry.1 entry.2, _, ?_,
      (silent later).mpr absent⟩
    rw [List.filterMap_append, List.filterMap_cons, gives]

/-- No name of a setting has a blank or a point in it. -/
theorem plain_of_known (known : key ∈ knownKeys) :
    ∀ c ∈ beginning ++ key.toList, isBlank c = false ∧ c ≠ '.' := by
  simp only [knownKeys, List.mem_cons, List.not_mem_nil, or_false] at known
  have plain : ((beginning ++ key.toList).all fun c => !isBlank c && c != '.') = true := by
    rcases known with rfl | rfl | rfl | rfl <;> rfl
  intro c there
  simpa using List.all_eq_true.mp plain c there

private theorem plain_of_lowerAscii {c : Char}
    (plain : isBlank (lowerAscii c) = false ∧ lowerAscii c ≠ '.') : isBlank c = false ∧ c ≠ '.' := by
  by_cases upper : 'A' ≤ c ∧ c ≤ 'Z'
  · have least : 65 ≤ c.toNat := upper.1
    have greatest : c.toNat ≤ 90 := upper.2
    constructor
    · simp only [isBlank, Bool.or_eq_false_iff, Bool.and_eq_false_iff, decide_eq_false_iff_not,
        beq_eq_false_iff_ne]
      omega
    · rintro rfl
      exact absurd least (by decide)
  · rw [lowerAscii, if_neg upper] at plain
    exact plain

private theorem toList_ne_nil_of_known (known : key ∈ knownKeys) : key.toList ≠ [] := by
  revert known
  revert key
  decide

/-- A variable that is called after a setting gives this setting. -/
theorem entryOf?_of_calledAfter (known : key ∈ knownKeys) (called : CalledAfter name key)
    (content : String) : entryOf? name content = some (key, parse content) := by
  have plain (c : Char) (there : c ∈ name.toList) : isBlank c = false ∧ c ≠ '.' :=
    plain_of_lowerAscii (plain_of_known known _ (called ▸ List.mem_map_of_mem there))
  have front : (name.toList.take beginning.length).map lowerAscii = beginning := by
    rw [List.map_take, called, List.take_left]
  have back : (name.toList.drop beginning.length).map lowerAscii = key.toList := by
    rw [List.map_drop, called, List.drop_left]
  generalize rest_eq : name.toList.drop beginning.length = rest at back
  have plainRest (c : Char) (there : c ∈ rest) : isBlank c = false ∧ c ≠ '.' :=
    plain c (List.mem_of_mem_drop (rest_eq ▸ there))
  have solid : strip isBlank rest = rest := strip_of_none fun c there => (plainRest c there).1
  have whole : rest.splitOn '.' = [rest] :=
    List.splitOnP_eq_singleton fun c there => beq_eq_false_iff_ne.mpr (plainRest c there).2
  have nonempty : rest.isEmpty = false := by
    cases rest with
    | nil => exact absurd back.symm (toList_ne_nil_of_known known)
    | cons c rest => rfl
  have components : keyOf? name = some [key.toList] := by
    rw [keyOf?, strip_of_none fun c there => (plain c there).1]
    simp only [front, if_true, rest_eq, solid, whole, List.any_cons, List.any_nil, nonempty,
      Bool.or_false, Bool.false_eq_true, if_false, List.map_cons, List.map_nil, back]
  simp only [entryOf?, components, nest, String.ofList_toList]

end Environment

/-! ## Reading the sources -/

section Reading

variable {surroundings : Surroundings} {path : Option String} {layer : Layer}
  {configuration : Configuration}

private theorem fileLayer_eq_ok_iff {format : Format} {reader : Files.Reader} {path : String} :
    fileLayer format reader path = .ok layer ↔ Written reader format path layer := by
  constructor
  · intro read
    unfold fileLayer Files.readText at read
    cases there : reader path with
    | error fault => simp [there, Except.toOption] at read
    | ok bytes =>
        cases decoded : Text.decodeUtf8? bytes with
        | none => simp [there, decoded, Except.toOption] at read
        | some text =>
            cases parsed : format.layer? (String.ofList text) with
            | none => simp [there, decoded, parsed, Except.toOption] at read
            | some found =>
                simp only [there, decoded, Except.toOption, Option.bind_some, parsed,
                  Except.ok.injEq] at read
                exact .parsed there decoded (read ▸ parsed)
  · rintro ⟨there, decoded, parsed⟩
    simp only [fileLayer, Files.readText, there, decoded, Except.toOption, Option.bind_some, parsed]

private theorem Written.isFile {format : Format} {reader : Files.Reader} {path : String}
    (written : Written reader format path layer) : isFile reader path = true := by
  obtain ⟨there, -, -⟩ := written
  simp only [Settings.isFile, there, Except.isOk, Except.toBool]

private theorem Written.nodup {format : Format} {reader : Files.Reader} {path : String}
    (written : Written reader format path layer) : layer.keys.Nodup := by
  obtain ⟨-, -, parsed⟩ := written
  exact Layer.nodup_document parsed

theorem userLayer_eq_ok_iff :
    userLayer surroundings = .ok layer ↔ UserGives surroundings layer := by
  constructor
  · intro read
    unfold userLayer at read
    cases known : userFile? surroundings.environment with
    | none =>
        rw [known] at read
        cases read
        exact .homeless known
    | some path =>
        rw [known] at read
        dsimp only at read
        cases there : surroundings.reader path with
        | error fault =>
            simp only [isFile, there, Except.isOk, Except.toBool, Bool.false_eq_true, if_false] at read
            cases read
            exact .missing known there
        | ok bytes =>
            simp only [isFile, there, Except.isOk, Except.toBool, if_true] at read
            exact .written known (fileLayer_eq_ok_iff.mp read)
  · intro gives
    cases gives with
    | homeless unknown => simp only [userLayer, unknown]
    | missing known absent =>
        simp only [userLayer, known, isFile, absent, Except.isOk, Except.toBool, Bool.false_eq_true,
          if_false]
    | written known written =>
        simp only [userLayer, known, written.isFile, if_true]
        exact fileLayer_eq_ok_iff.mpr written

theorem askedLayer_eq_ok_iff :
    askedLayer surroundings path = .ok layer ↔ AskedGives surroundings path layer := by
  constructor
  · intro read
    cases path with
    | none =>
        cases read
        exact .nothing
    | some path =>
        simp only [askedLayer] at read
        split at read
        · split at read
          · next format told => exact .written told (fileLayer_eq_ok_iff.mp read)
          · cases read
        · cases read
  · intro gives
    cases gives with
    | nothing => rfl
    | written told written =>
        simp only [askedLayer, written.isFile, if_true, told]
        exact fileLayer_eq_ok_iff.mpr written

/-- All sources are read before anything of them is looked at. -/
theorem layers_eq_ok_iff : layers surroundings path = .ok layer ↔
    ∃ asked user, AskedGives surroundings path asked ∧ UserGives surroundings user ∧
      layer = (Environment.layer surroundings.environment).over (asked.over user) := by
  unfold layers
  simp only [← askedLayer_eq_ok_iff, ← userLayer_eq_ok_iff]
  cases askedLayer surroundings path with
  | error fault => simp [bind, Except.bind]
  | ok asked =>
      cases userLayer surroundings with
      | error fault => simp [bind, Except.bind]
      | ok user => simp [bind, Except.bind, pure, Except.pure, eq_comm]

end Reading

/-! ## Reading the settings -/

namespace Value

variable {value : Value}

private theorem text?_eq_some_iff {text : String} :
    value.text? = some text ↔ value.IsText text := by
  cases value <;> simp [text?, IsText]

private theorem address?_eq_some_iff {address : Address} :
    value.address? = some address ↔ value.IsAddress address := by
  simp only [address?, Option.bind_eq_some_iff, text?_eq_some_iff, IsText, IsAddress]
  refine exists_congr fun text => and_congr_right fun _ => ?_
  cases Address.ofText text <;> simp [Except.toOption]

private theorem natural?_eq_some_iff {number : Nat} :
    value.natural? = some number ↔ value.IsNatural number := by
  cases value with
  | integer value =>
      simp only [natural?, IsNatural, Option.ite_none_right_eq_some, Option.some.injEq,
        integer.injEq]
      omega
  | _ => simp [natural?, IsNatural]

end Value

section Reads

variable {α : Type} {read : Value → Option α} {Fits : Value → α → Prop} {layer : Layer}
  {key : String} {value : Value} {setting : Option α}

private theorem read?_of_given (found : layer.lookup key = some value) (given : value ≠ .nothing) :
    layer.read? read key = (read value).map some := by
  unfold Layer.read?
  rw [found]
  cases value with
  | nothing => exact absurd rfl given
  | _ => rfl

theorem holds_of_given (given : value ≠ .nothing) :
    Holds Fits (some value) setting ↔ ∃ inner, Fits value inner ∧ some inner = setting := by
  constructor
  · rintro (_ | _ | fits)
    · exact absurd rfl given
    · exact ⟨_, fits, rfl⟩
  · rintro ⟨inner, fits, rfl⟩
    exact .given fits

/-- A setting is read as its value says, if there is one that says something. -/
theorem read?_eq_some_iff (reads : ∀ value inner, read value = some inner ↔ Fits value inner)
    (never : ∀ inner, ¬ Fits .nothing inner) :
    layer.read? read key = some setting ↔ Holds Fits (layer.lookup key) setting := by
  cases found : layer.lookup key with
  | none =>
      simp only [Layer.read?, found, Option.some.injEq]
      constructor
      · rintro rfl
        exact .absent
      · rintro ⟨⟩
        rfl
  | some value =>
      by_cases empty : value = .nothing
      · subst empty
        simp only [Layer.read?, found, Option.some.injEq]
        constructor
        · rintro rfl
          exact .unset
        · rintro (_ | _ | fits)
          · rfl
          · exact absurd fits (never _)
      · rw [read?_of_given found empty, holds_of_given empty, Option.map_eq_some_iff]
        simp only [reads]

end Reads

section Configuration

variable {layer : Layer} {key : String}

private theorem all_known_iff : (layer.all fun entry => knownKeys.contains entry.1) = true ↔
    ∀ key ∈ layer.keys, key ∈ knownKeys := by
  simp only [List.all_eq_true, List.contains_iff_mem, Layer.keys, List.forall_mem_map]

private theorem read?_address {setting : Option Address} :
    layer.read? Value.address? key = some setting ↔
      Holds Value.IsAddress (layer.lookup key) setting :=
  read?_eq_some_iff (fun _ _ => Value.address?_eq_some_iff) fun _ ⟨_, text, _⟩ => by cases text

private theorem read?_natural {setting : Option Nat} :
    layer.read? Value.natural? key = some setting ↔
      Holds Value.IsNatural (layer.lookup key) setting :=
  read?_eq_some_iff (fun _ _ => Value.natural?_eq_some_iff) fun _ ⟨integer, _⟩ => by cases integer

private theorem read?_text {setting : Option String} :
    layer.read? Value.text? key = some setting ↔ Holds Value.IsText (layer.lookup key) setting :=
  read?_eq_some_iff (fun _ _ => Value.text?_eq_some_iff) fun _ text => by cases text

/-- A layer holds a configuration if all its keys are known and each setting can be read. -/
theorem configuration?_eq_some_iff {configuration : Configuration} :
    layer.configuration? = some configuration ↔
      (∀ key ∈ layer.keys, key ∈ knownKeys) ∧ Gives (layer.lookup ·) configuration := by
  unfold Layer.configuration?
  rw [Option.ite_none_right_eq_some, all_known_iff]
  refine and_congr_right fun _ => ?_
  simp only [bind, Option.bind_eq_some_iff, read?_address, read?_natural, read?_text]
  constructor
  · rintro ⟨baseUrl, address, timeout, natural, template, text, fixtures, file, same⟩
    cases same
    exact ⟨address, natural, text, file⟩
  · rintro ⟨address, natural, text, file⟩
    exact ⟨_, address, _, natural, _, text, _, file, rfl⟩

end Configuration

/-! ## The result -/

section Sources

variable {surroundings : Surroundings} {path : Option String} {layers : List Layer}
  {configuration : Configuration}

theorem winner?_three (upper middle lower : Layer) (key : String) :
    winner? [upper, middle, lower] key =
      (upper.lookup key).or ((middle.lookup key).or (lower.lookup key)) := by
  simp only [winner?, List.findSome?_cons, List.findSome?_nil]
  cases upper.lookup key <;> cases middle.lookup key <;> cases lower.lookup key <;> rfl

private theorem AskedGives.nodup {layer : Layer} (gives : AskedGives surroundings path layer) :
    layer.keys.Nodup := by
  cases gives with
  | nothing => exact List.nodup_nil
  | written told written => exact written.nodup

/-- What the sources hold, laid over each other. -/
theorem lookup_layers {asked user : Layer} (asks : AskedGives surroundings path asked)
    (key : String) :
    ((Environment.layer surroundings.environment).over (asked.over user)).lookup key =
      winner? [Environment.layer surroundings.environment, asked, user] key := by
  rw [winner?_three, Layer.lookup_over (Environment.nodup_layer _), Layer.lookup_over asks.nodup]

theorem allKnown_three {upper middle lower : Layer} : AllKnown [upper, middle, lower] ↔
    ∀ key ∈ (upper.over (middle.over lower)).keys, key ∈ knownKeys := by
  simp only [AllKnown, List.forall_mem_cons, Layer.mem_keys_over, or_imp, forall_and,
    List.not_mem_nil, false_implies, implies_true, and_true]

theorem load_eq_ok_iff : load surroundings path = .ok configuration ↔
    ∃ layers, Sources surroundings path layers ∧ AllKnown layers ∧
      Gives (winner? layers) configuration := by
  have read (asked user : Layer) (asks : AskedGives surroundings path asked) :
      ((Environment.layer surroundings.environment).over (asked.over user)).configuration? =
          some configuration ↔
        AllKnown [Environment.layer surroundings.environment, asked, user] ∧
          Gives (winner? [Environment.layer surroundings.environment, asked, user])
            configuration := by
    simp only [configuration?_eq_some_iff, allKnown_three, lookup_layers asks]
  constructor
  · intro loaded
    unfold load at loaded
    split at loaded
    · cases loaded
    · next layer held =>
      obtain ⟨asked, user, asks, uses, rfl⟩ := layers_eq_ok_iff.mp held
      split at loaded
      · next found =>
        cases loaded
        exact ⟨_, .given asks uses, (read asked user asks).mp found⟩
      · cases loaded
  · rintro ⟨layers, sources, known, gives⟩
    cases sources with
    | @given asked user asks uses =>
        have held := layers_eq_ok_iff.mpr ⟨asked, user, asks, uses, rfl⟩
        have found := (read asked user asks).mpr ⟨known, gives⟩
        simp only [load, held, found]

private theorem Sources.unique {others : List Layer} (sources : Sources surroundings path layers)
    (more : Sources surroundings path others) : layers = others := by
  obtain ⟨asks, uses⟩ := sources
  obtain ⟨asksToo, usesToo⟩ := more
  cases (askedLayer_eq_ok_iff.mpr asks).symm.trans (askedLayer_eq_ok_iff.mpr asksToo)
  cases (userLayer_eq_ok_iff.mpr uses).symm.trans (userLayer_eq_ok_iff.mpr usesToo)
  rfl

private theorem exists_gives_iff {given : String → Option Value} :
    (∃ configuration, Gives given configuration) ↔ Acceptable given := by
  constructor
  · rintro ⟨configuration, address, natural, text, file⟩
    exact ⟨⟨_, address⟩, ⟨_, natural⟩, ⟨_, text⟩, ⟨_, file⟩⟩
  · rintro ⟨⟨baseUrl, address⟩, ⟨fetchTimeout, natural⟩, ⟨template, text⟩, ⟨fixtures, file⟩⟩
    exact ⟨⟨baseUrl, fetchTimeout, template, fixtures⟩, address, natural, text, file⟩

/-- Fetches are never given up if nobody set a time, or if zero was set last. -/
theorem Gives.effectiveTimeout_eq_none_iff {given : String → Option Value}
    (gives : Gives given configuration) : configuration.effectiveTimeout = none ↔
      given fetchTimeoutKey = none ∨ given fetchTimeoutKey = some .nothing ∨
        given fetchTimeoutKey = some (.integer 0) := by
  have holds := gives.fetchTimeout
  unfold Configuration.effectiveTimeout
  generalize given fetchTimeoutKey = value at holds
  generalize configuration.fetchTimeout = setting at holds
  cases holds with
  | absent | unset => simp
  | @given value number fits =>
      obtain ⟨rfl, -⟩ := fits
      simp [Option.filter_some]

/-- What is true of the configuration that all sources give. -/
structure Overrides (surroundings : Surroundings) (path : Option String) : Prop where
  /-- What the sources hold is certain, if all of them can be read. -/
  single : ∀ layers others, Sources surroundings path layers → Sources surroundings path others →
    layers = others
  /-- A configuration is loaded if all sources can be read, none of them has an unknown key, and
  every setting is what the strongest layer says that has its key. -/
  loads : ∀ configuration, load surroundings path = .ok configuration ↔
    ∃ layers, Sources surroundings path layers ∧ AllKnown layers ∧
      Gives (winner? layers) configuration
  /-- Each setting only has to make sense by itself, and only in the layer that has won. -/
  succeeds : (∃ configuration, load surroundings path = .ok configuration) ↔
    ∃ layers, Sources surroundings path layers ∧ AllKnown layers ∧ Acceptable (winner? layers)
  /-- Fetches are never given up if the layer that has won says so, whatever is below it. -/
  unlimited : ∀ layers configuration, Sources surroundings path layers →
    load surroundings path = .ok configuration →
      (configuration.effectiveTimeout = none ↔
        winner? layers fetchTimeoutKey = none ∨ winner? layers fetchTimeoutKey = some .nothing ∨
          winner? layers fetchTimeoutKey = some (.integer 0))
  /-- A variable of the environment that is called after a setting wins over all files. -/
  environment : ∀ key ∈ knownKeys, ∀ earlier name content later,
    surroundings.environment = earlier ++ (name, content) :: later →
    Environment.CalledAfter name key →
    (∀ other ∈ later, ∀ given, Environment.entryOf? other.1 other.2 ≠ some (key, given)) →
      ∀ layers, Sources surroundings path layers →
        winner? layers key = some (Environment.parse content)

/-- The layers override each other setting by setting. -/
theorem layers_override (surroundings : Surroundings) (path : Option String) :
    Overrides surroundings path where
  single _ _ := Sources.unique
  loads _ := load_eq_ok_iff
  succeeds := by
    simp only [load_eq_ok_iff, ← exists_gives_iff]
    constructor
    · rintro ⟨configuration, layers, sources, known, gives⟩
      exact ⟨layers, sources, known, configuration, gives⟩
    · rintro ⟨layers, sources, known, configuration, gives⟩
      exact ⟨configuration, layers, sources, known, gives⟩
  unlimited layers configuration sources loaded := by
    obtain ⟨others, same, -, gives⟩ := load_eq_ok_iff.mp loaded
    rw [sources.unique same]
    exact gives.effectiveTimeout_eq_none_iff
  environment key known earlier name content later parts called last layers sources := by
    have gives := Environment.entryOf?_of_calledAfter known called content
    have found := Environment.lookup_layer_eq_some_iff.mpr
      ⟨earlier, name, content, later, parts, gives, last⟩
    cases sources with
    | given asks uses => rw [winner?_three, found, Option.some_or]

/-- A file of ASCII characters holds what they say. -/
theorem written_of_ascii {reader : Files.Reader} {format : Format} {path text : String}
    {layer : Layer} (there : reader path = .ok (text.toList.map Char.toNat))
    (ascii : text.toList.all Text.isAscii = true) (parsed : format.layer? text = some layer) :
    Written reader format path layer :=
  .parsed there (Text.decodeUtf8?_of_ascii (List.all_eq_true.mp ascii))
    (String.ofList_toList.symm ▸ parsed)

/-- What the user has written: nothing that a template or a time can be, and where fixtures are. -/
def userText : String := "fetch_timeout = true\ntemplate = true\nfixtures = \"u\"\n"

/-- What stands in the file that is asked for: no time, and a template. -/
def askedText : String := "\x7b\"fetch_timeout\": null, \"template\": \"a\"\x7d"

/-- There are both files, and a variable for the template. -/
def threeSources : Surroundings where
  reader path :=
    if path = "/h/.config/srcfacts/config.toml" then .ok (userText.toList.map Char.toNat)
    else if path = "asked.JSON" then .ok (askedText.toList.map Char.toNat)
    else .error .notFound
  environment := [(homeVariable, "/h"), ("SRCFACTS_TEMPLATE", "e")]

/-- Each source wins a setting, and what is wrong below it does no harm. -/
theorem three_sources_load :
    Sources threeSources (some "asked.JSON")
      [[(templateKey, .text "e")], [(templateKey, .text "a"), (fetchTimeoutKey, .nothing)],
        [(fixturesKey, .text "u"), (templateKey, .flag true), (fetchTimeoutKey, .flag true)]] ∧
    load threeSources (some "asked.JSON") = .ok ⟨none, none, some "e", some "u"⟩ ∧
    Configuration.effectiveTimeout ⟨none, none, some "e", some "u"⟩ = none := by
  have user : tomlLayer? userText =
      some [(fixturesKey, .text "u"), (templateKey, .flag true), (fetchTimeoutKey, .flag true)] := by
    cbv
  have asked : jsonLayer? askedText =
      some [(templateKey, .text "a"), (fetchTimeoutKey, .nothing)] := by cbv
  have uses : UserGives threeSources
      [(fixturesKey, .text "u"), (templateKey, .flag true), (fetchTimeoutKey, .flag true)] :=
    .written rfl (written_of_ascii rfl rfl user)
  have asks : AskedGives threeSources (some "asked.JSON")
      [(templateKey, .text "a"), (fetchTimeoutKey, .nothing)] :=
    .written rfl (written_of_ascii rfl rfl asked)
  have sources : Sources threeSources (some "asked.JSON")
      [[(templateKey, .text "e")], [(templateKey, .text "a"), (fetchTimeoutKey, .nothing)],
        [(fixturesKey, .text "u"), (templateKey, .flag true), (fetchTimeoutKey, .flag true)]] :=
    .given asks uses
  have overrides := layers_override threeSources (some "asked.JSON")
  have loaded : load threeSources (some "asked.JSON") = .ok ⟨none, none, some "e", some "u"⟩ := by
    refine (overrides.loads _).mpr ⟨_, sources, ?_, ?_⟩
    · rw [AllKnown]
      decide
    · exact ⟨.absent, .unset, .given rfl, .given rfl⟩
  exact ⟨sources, loaded, (overrides.unlimited _ _ sources loaded).mpr (.inr (.inl rfl))⟩

end Sources

end Settings
end LinkFacts
