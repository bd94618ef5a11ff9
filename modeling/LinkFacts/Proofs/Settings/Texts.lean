import LinkFacts.Proofs.Json.Objects
import LinkFacts.Proofs.Settings.Guessing
import LinkFacts.Proofs.Settings.Layering
import LinkFacts.Proofs.Text.Utf8

/-!
# Texts from the environment

A text that a variable sets is compared with the same text in a file.  Both are settings that are put
beside those of the other sources, so that one lemma about such a setting serves for either of them.
They differ only where the text of the variable is taken for something else.
-/

namespace LinkFacts
namespace Settings

open Naming (lookup_cons_ite)

variable {reader : Files.Reader} {environment earlier later : List (String × String)}
  {key name content path : String} {asked other : Option String} {surroundings others : Surroundings}
  {layer rest user : Layer} {value : Value} {given : String → Option Value}
  {configuration : Configuration}

/-! ## Failing -/

private theorem userLayer_fault {fault : Fault} (failed : userLayer surroundings = .error fault) :
    fault = .unloadable := by
  unfold userLayer fileLayer at failed
  split at failed
  · cases failed
  · split at failed
    · split at failed
      · cases failed
      · cases failed
        rfl
    · cases failed

/-- Once the file that is asked for is read there is only one way to fail. -/
theorem load_fault (asks : AskedGives surroundings asked layer) {fault : Fault}
    (failed : load surroundings asked = .error fault) : fault = .unloadable := by
  have read := askedLayer_eq_ok_iff.mpr asks
  unfold load layers at failed
  rw [read] at failed
  cases used : userLayer surroundings with
  | error other =>
      simp only [used, bind, Except.bind, Except.error.injEq] at failed
      exact failed ▸ userLayer_fault used
  | ok user =>
      simp only [used, bind, Except.bind, pure, Except.pure] at failed
      split at failed
      · cases failed
      · cases failed
        rfl

/-- Loading is settled by the configurations that it can give. -/
theorem load_congr (asks : AskedGives surroundings asked layer)
    (asksToo : AskedGives others other rest)
    (same : ∀ configuration, load surroundings asked = .ok configuration ↔
      load others other = .ok configuration) : load surroundings asked = load others other := by
  cases loaded : load surroundings asked with
  | ok configuration => exact ((same configuration).mp loaded).symm
  | error fault =>
      cases loadedToo : load others other with
      | ok configuration => cases loaded.symm.trans ((same configuration).mpr loadedToo)
      | error faultToo => rw [load_fault asks loaded, load_fault asksToo loadedToo]

/-! ## One more setting -/

/-- What is given, and a value for one more setting. -/
def also (key : String) (value : Value) (given : String → Option Value) : String → Option Value :=
  fun other => if other = key then some value else given other

/-- Only settings that the program knows are given. -/
def KnownGiven (given : String → Option Value) : Prop := ∀ key, given key ≠ none → key ∈ knownKeys

private theorem mem_keys_iff_lookup : key ∈ layer.keys ↔ layer.lookup key ≠ none := by
  simp [Layer.keys, List.lookup_eq_none_iff]

private theorem allKnown_iff {upper middle lower : Layer} :
    AllKnown [upper, middle, lower] ↔ KnownGiven (winner? [upper, middle, lower]) := by
  rw [allKnown_three]
  refine forall_congr' fun key => ?_
  rw [Layer.mem_keys_over, Layer.mem_keys_over, winner?_three]
  simp only [mem_keys_iff_lookup, ne_eq, Option.or_eq_none_iff, not_and_or]

/-- A setting that is added to the strongest layer is added to all of them. -/
theorem winner?_also_upper {upper more middle lower : Layer}
    (added : (more.lookup ·) = also key value (upper.lookup ·)) :
    winner? [more, middle, lower] = also key value (winner? [upper, middle, lower]) := by
  funext other
  have entry := congrFun added other
  simp only [also, winner?_three] at entry ⊢
  rw [entry]
  split
  · exact Option.some_or
  · rfl

/-- So is one that is added below a layer that says nothing of it. -/
theorem winner?_also_middle {upper middle more lower : Layer} (silent : upper.lookup key = none)
    (added : (more.lookup ·) = also key value (middle.lookup ·)) :
    winner? [upper, more, lower] = also key value (winner? [upper, middle, lower]) := by
  funext other
  have entry := congrFun added other
  simp only [also, winner?_three] at entry ⊢
  rw [entry]
  split
  · next same => rw [same, silent, Option.none_or, Option.some_or]
  · rfl

private theorem load_eq_ok_iff_of_asked (asks : AskedGives surroundings asked layer) :
    load surroundings asked = .ok configuration ↔ ∃ user, UserGives surroundings user ∧
      KnownGiven (winner? [Environment.layer surroundings.environment, layer, user]) ∧
        Gives (winner? [Environment.layer surroundings.environment, layer, user]) configuration := by
  rw [load_eq_ok_iff]
  constructor
  · rintro ⟨_, ⟨asksToo, uses⟩, known, gives⟩
    cases (askedLayer_eq_ok_iff.mpr asks).symm.trans (askedLayer_eq_ok_iff.mpr asksToo)
    exact ⟨_, uses, allKnown_iff.mp known, gives⟩
  · rintro ⟨user, uses, known, gives⟩
    exact ⟨_, .given asks uses, allKnown_iff.mpr known, gives⟩

/-- The settings that are texts. -/
def textKeys : List String := [templateKey, fixturesKey]

/-- A configuration with a text in the place of an earlier one. -/
def Configuration.withText (configuration : Configuration) (key text : String) : Configuration :=
  if key = templateKey then { configuration with template := some text }
  else { configuration with fixtures := some text }

private theorem Configuration.withText_injective {text more : String}
    (same : configuration.withText key text = configuration.withText key more) : text = more := by
  unfold Configuration.withText at same
  split at same
  · exact Option.some.inj (congrArg Configuration.template same)
  · exact Option.some.inj (congrArg Configuration.fixtures same)

private theorem known_of_textKey (textual : key ∈ textKeys) : key ∈ knownKeys := by
  revert textual
  revert key
  decide

private theorem knownGiven_also (textual : key ∈ textKeys) (unset : given key = none) :
    KnownGiven (also key value given) ↔ KnownGiven given := by
  refine forall_congr' fun other => ?_
  unfold also
  split
  · next same =>
    subst same
    simp only [unset, known_of_textKey textual, implies_true]
  · rfl

/-- A setting that is a text is read by itself. -/
theorem gives_also (textual : key ∈ textKeys) (unset : given key = none) (said : value ≠ .nothing) :
    Gives (also key value given) configuration ↔ ∃ plain text, Gives given plain ∧
      value = .text text ∧ configuration = plain.withText key text := by
  have apart : baseUrlKey ≠ templateKey ∧ fetchTimeoutKey ≠ templateKey ∧
      fixturesKey ≠ templateKey ∧ baseUrlKey ≠ fixturesKey ∧ fetchTimeoutKey ≠ fixturesKey ∧
        templateKey ≠ fixturesKey := by decide
  obtain ⟨first, second, third, fourth, fifth, sixth⟩ := apart
  simp only [textKeys, List.mem_cons, List.not_mem_nil, or_false] at textual
  constructor
  · rintro ⟨address, timeout, template, fixtures⟩
    rcases textual with rfl | rfl
    · simp only [also, first, second, third, if_false, if_true, holds_of_given said]
        at address timeout template fixtures
      obtain ⟨text, fits, held⟩ := template
      refine ⟨{ configuration with template := none }, text,
        ⟨address, timeout, unset ▸ .absent, fixtures⟩, fits, ?_⟩
      simp only [Configuration.withText, if_true, held]
    · simp only [also, fourth, fifth, sixth, if_false, if_true, holds_of_given said]
        at address timeout template fixtures
      obtain ⟨text, fits, held⟩ := fixtures
      refine ⟨{ configuration with fixtures := none }, text,
        ⟨address, timeout, template, unset ▸ .absent⟩, fits, ?_⟩
      simp only [Configuration.withText, third, if_false, held]
  · rintro ⟨plain, text, ⟨address, timeout, template, fixtures⟩, rfl, rfl⟩
    rcases textual with rfl | rfl
    · refine ⟨?_, ?_, ?_, ?_⟩
      all_goals simp only [also, first, second, third, Configuration.withText, if_true, if_false]
      exacts [address, timeout, .given rfl, fixtures]
    · refine ⟨?_, ?_, ?_, ?_⟩
      all_goals simp only [also, third, fourth, fifth, sixth, Configuration.withText, if_true,
        if_false]
      exacts [address, timeout, template, .given rfl]

/-- A text that is set in one more place is put into the configuration, whatever the place is. -/
theorem load_also (textual : key ∈ textKeys) (said : value ≠ .nothing)
    (asks : AskedGives surroundings asked layer) (asksToo : AskedGives others other rest)
    (users : ∀ user, UserGives others user ↔ UserGives surroundings user)
    (unset : ∀ user, UserGives surroundings user →
      winner? [Environment.layer surroundings.environment, layer, user] key = none)
    (more : ∀ user, winner? [Environment.layer others.environment, rest, user] =
      also key value (winner? [Environment.layer surroundings.environment, layer, user])) :
    load others other = .ok configuration ↔ ∃ plain text, load surroundings asked = .ok plain ∧
      value = .text text ∧ configuration = plain.withText key text := by
  simp only [load_eq_ok_iff_of_asked asks, load_eq_ok_iff_of_asked asksToo, users, more]
  constructor
  · rintro ⟨user, uses, known, gives⟩
    obtain ⟨plain, text, gives, same, put⟩ := (gives_also textual (unset user uses) said).mp gives
    exact ⟨plain, text, ⟨user, uses, (knownGiven_also textual (unset user uses)).mp known, gives⟩,
      same, put⟩
  · rintro ⟨plain, text, ⟨user, uses, known, gives⟩, same, put⟩
    exact ⟨user, uses, (knownGiven_also textual (unset user uses)).mpr known,
      (gives_also textual (unset user uses) said).mpr ⟨plain, text, gives, same, put⟩⟩

/-! ## One more variable -/

/-- No variable and no file of the user says anything of a setting. -/
structure Unset (key : String) (surroundings : Surroundings) : Prop where
  environment : ∀ entry ∈ surroundings.environment, ∀ value,
    Environment.entryOf? entry.1 entry.2 ≠ some (key, value)
  user : ∀ layer, UserGives surroundings layer → layer.lookup key = none

/-- What variables say, the last one first. -/
theorem lookup_environment (environment : List (String × String)) (key : String) :
    (Environment.layer environment).lookup key = (environment.filterMap fun entry =>
      Environment.entryOf? entry.1 entry.2).reverse.lookup key := by
  rw [Environment.layer, Layer.ofEntries_eq_over, Layer.lookup_over_reverse, List.lookup_nil,
    Option.or_none]

private theorem lookup_eq_none_of_silent (silent : ∀ entry ∈ environment, ∀ value,
    Environment.entryOf? entry.1 entry.2 ≠ some (key, value)) :
    (Environment.layer environment).lookup key = none := by
  refine Option.eq_none_iff_forall_ne_some.mpr fun value found => ?_
  obtain ⟨earlier, name, content, later, rfl, gives, -⟩ :=
    Environment.lookup_layer_eq_some_iff.mp found
  exact silent (name, content) (List.mem_append_right _ List.mem_cons_self) value gives

/-- One variable more gives its own setting, if no other one does, and leaves the others alone. -/
theorem lookup_environment_insert (gives : Environment.entryOf? name content = some (key, value))
    (silent : ∀ entry ∈ earlier ++ later, ∀ value,
      Environment.entryOf? entry.1 entry.2 ≠ some (key, value)) :
    ((Environment.layer (earlier ++ (name, content) :: later)).lookup ·) =
      also key value ((Environment.layer (earlier ++ later)).lookup ·) := by
  funext other
  unfold also
  split
  · next same =>
    subst same
    refine Environment.lookup_layer_eq_some_iff.mpr ⟨earlier, name, content, later, rfl, gives, ?_⟩
    exact fun entry there => silent entry (List.mem_append_right _ there)
  · next different =>
    simp only [lookup_environment, List.filterMap_append, List.filterMap_cons, gives,
      List.reverse_append, List.reverse_cons, List.lookup_append, lookup_cons_ite, different,
      if_false, List.lookup_nil, Option.or_none]

private theorem lookup_insert_ne (different : key ≠ name) :
    (earlier ++ (name, content) :: later).lookup key = (earlier ++ later).lookup key := by
  simp only [List.lookup_append, lookup_cons_ite, different, if_false]

/-- The variables that tell where the file of the user is are not called after settings. -/
theorem not_calledAfter_directory {directory : String}
    (directs : directory ∈ [homeVariable, configHomeVariable]) :
    ¬Environment.CalledAfter directory key := by
  intro called
  have front := congrArg (List.take Environment.beginning.length) called
  rw [List.take_left] at front
  have elsewhere : ∀ directory ∈ [homeVariable, configHomeVariable],
      (directory.toList.map Text.lowerAscii).take Environment.beginning.length ≠
        Environment.beginning := by decide
  exact elsewhere directory directs front

private theorem userFile?_insert (called : Environment.CalledAfter name key) :
    userFile? (earlier ++ (name, content) :: later) = userFile? (earlier ++ later) := by
  have elsewhere (directory : String) (directs : directory ∈ [homeVariable, configHomeVariable]) :
      directory ≠ name := by
    rintro rfl
    exact not_calledAfter_directory directs called
  have home : homeVariable ≠ name := elsewhere _ (by simp)
  have configHome : configHomeVariable ≠ name := elsewhere _ (by simp)
  simp only [userFile?, configHome?, lookup_insert_ne home, lookup_insert_ne configHome]

private theorem userGives_insert (called : Environment.CalledAfter name key) :
    UserGives ⟨reader, earlier ++ (name, content) :: later⟩ user ↔
      UserGives ⟨reader, earlier ++ later⟩ user := by
  simp only [← userLayer_eq_ok_iff, userLayer, userFile?_insert called]

/-! ## One more member -/

/-- The JSON document that sets nothing but a text. -/
def textDocument (key text : String) : List Char :=
  '{' :: (Json.quote key ++ ':' :: (Json.quote text ++ ['}']))

private theorem jsonLayer?_textDocument (key text : String) :
    jsonLayer? (String.ofList (textDocument key text)) = some [(key, .text text)] := by
  have member : Json.Takes (Json.readMember (Json.readValue 126)
      (Json.quote key ++ ':' :: (Json.quote text ++ ['}']))) (key, .text text) ['}'] :=
    Json.readMember_quote (Json.skipSpace_quote text ['}'] ▸ Json.readValue_quote 126 text ['}'])
  rw [Json.quote_append] at member
  have members := Json.readMembers_first member (Json.readMembers_close false)
  rw [← Json.quote_append] at members
  have brace : Json.skipSpace (textDocument key text) = textDocument key text := rfl
  have document : Json.Takes (Json.readObject Json.readValue Json.greatestDepth
      (Json.skipSpace (textDocument key text))) [(key, .text text)] [] :=
    brace ▸ Json.takes_readObject_iff.mpr ⟨_, rfl, members⟩
  rw [jsonLayer?, String.toList_ofList, Json.readDocument_of_takes document]
  rfl

private theorem written_textDocument {bytes : List Nat} {text : String}
    (there : reader path = .ok bytes)
    (decoded : Text.decodeUtf8? bytes = some (textDocument key text)) :
    Written reader .json path [(key, .text text)] :=
  .parsed there decoded (jsonLayer?_textDocument key text)

/-! ## Either place -/

/-- What is taken for something else is still something. -/
theorem parse_ne_nothing (content : String) : Environment.parse content ≠ .nothing := by
  by_cases complete :
      ∃ value, Environment.Means (Environment.depthOf content) (Environment.front content) value
  · obtain ⟨value, means⟩ := complete
    rw [Environment.parse_of_means means]
    cases means with
    | bare =>
        unfold Environment.bareValue
        split
        · simp
        · split <;> simp
    | _ => simp
  · rw [Environment.parse_of_not_means fun value means => complete ⟨value, means⟩]
    simp

/-- What setting a text by a variable comes to, compared with setting it in a file at a path, beside
what is set by other variables and in the file that is asked for.  The file at the path says what the
latter says and sets the text besides. -/
structure TextAgrees (reader : Files.Reader) (earlier later : List (String × String))
    (name content key : String) (asked : Option String) (path : String) : Prop where
  /-- The text in the file is the setting, as it stands. -/
  file : ∀ configuration, load ⟨reader, earlier ++ later⟩ (some path) = .ok configuration ↔
    ∃ plain, load ⟨reader, earlier ++ later⟩ asked = .ok plain ∧
      configuration = plain.withText key content
  /-- The variable sets the text that its content is taken for, and must be taken for one. -/
  environment : ∀ configuration,
    load ⟨reader, earlier ++ (name, content) :: later⟩ asked = .ok configuration ↔
      ∃ plain text, load ⟨reader, earlier ++ later⟩ asked = .ok plain ∧
        Environment.parse content = .text text ∧ configuration = plain.withText key text
  /-- Both are the same for a text that stands for itself. -/
  same : ¬Environment.Guessed content →
    load ⟨reader, earlier ++ (name, content) :: later⟩ asked =
      load ⟨reader, earlier ++ later⟩ (some path)
  /-- They are never the same for a text that is taken for something else, where there is a
  configuration without it. -/
  different : Environment.Guessed content →
    (∃ plain, load ⟨reader, earlier ++ later⟩ asked = .ok plain) →
      load ⟨reader, earlier ++ (name, content) :: later⟩ asked ≠
        load ⟨reader, earlier ++ later⟩ (some path)

/-- The settings that are texts mean the same from the environment as from a file as long as they are
not taken for something else. -/
theorem text_agrees (textual : key ∈ textKeys) (called : Environment.CalledAfter name key)
    (asks : AskedGives ⟨reader, earlier ++ later⟩ asked layer) (free : layer.lookup key = none)
    (unset : Unset key ⟨reader, earlier ++ later⟩)
    (asksToo : AskedGives ⟨reader, earlier ++ later⟩ (some path) rest)
    (more : (rest.lookup ·) = also key (.text content) (layer.lookup ·)) :
    TextAgrees reader earlier later name content key asked path := by
  have silent : (Environment.layer (earlier ++ later)).lookup key = none :=
    lookup_eq_none_of_silent unset.environment
  have gives := Environment.entryOf?_of_calledAfter (known_of_textKey textual) called content
  have inserted := lookup_environment_insert gives unset.environment
  have nowhere (user : Layer) (uses : UserGives ⟨reader, earlier ++ later⟩ user) :
      winner? [Environment.layer (earlier ++ later), layer, user] key = none := by
    rw [winner?_three, silent, free, unset.user user uses]
    rfl
  have asksBeside : AskedGives ⟨reader, earlier ++ (name, content) :: later⟩ asked layer := by
    cases asks with
    | nothing => exact .nothing
    | written told written => exact .written told written
  have file (configuration : Configuration) :
      load ⟨reader, earlier ++ later⟩ (some path) = .ok configuration ↔
        ∃ plain, load ⟨reader, earlier ++ later⟩ asked = .ok plain ∧
          configuration = plain.withText key content := by
    rw [load_also textual Value.noConfusion asks asksToo (fun _ => Iff.rfl) nowhere
      fun user => winner?_also_middle silent more]
    simp
  have environment (configuration : Configuration) :
      load ⟨reader, earlier ++ (name, content) :: later⟩ asked = .ok configuration ↔
        ∃ plain text, load ⟨reader, earlier ++ later⟩ asked = .ok plain ∧
          Environment.parse content = .text text ∧ configuration = plain.withText key text :=
    load_also textual (parse_ne_nothing content) asks asksBeside
      (fun _ => userGives_insert called) nowhere fun user => winner?_also_upper inserted
  refine ⟨file, environment, fun itself => ?_, fun guessed => ?_⟩
  · refine load_congr asksBeside asksToo fun configuration => ?_
    rw [file, environment, Environment.parse_eq_text_iff.mpr itself]
    simp
  · rintro ⟨plain, loaded⟩ equal
    have put := (file _).mpr ⟨plain, loaded, rfl⟩
    obtain ⟨other, text, loadedToo, parsed, same⟩ := (environment _).mp (equal.trans put)
    cases loaded.symm.trans loadedToo
    rw [← Configuration.withText_injective same] at parsed
    exact Environment.parse_eq_text_iff.mp parsed guessed

/-- There is one file, and it sets nothing but a text. -/
def textReader (key text : String) : Files.Reader := fun path =>
  if path = "settings.json" then .ok ((textDocument key text).map Char.toNat) else .error .notFound

private theorem asks_textReader {text : String}
    (ascii : (textDocument key text).all Text.isAscii = true) :
    AskedGives ⟨textReader key text, environment⟩ (some "settings.json") [(key, .text text)] :=
  .written rfl (written_textDocument rfl (Text.decodeUtf8?_of_ascii (List.all_eq_true.mp ascii)))

private theorem load_textReader {text : String}
    (ascii : (textDocument templateKey text).all Text.isAscii = true) :
    load ⟨textReader templateKey text, []⟩ (some "settings.json") =
      .ok ⟨none, none, some text, none⟩ := by
  have asks : AskedGives ⟨textReader templateKey text, []⟩ (some "settings.json")
      [(templateKey, .text text)] := asks_textReader ascii
  have read := askedLayer_eq_ok_iff.mpr asks
  simp only [load, layers, read]
  rfl

private theorem unset_of_homeless (key : String) (reader : Files.Reader) :
    Unset key ⟨reader, []⟩ where
  environment := by simp
  user layer gives := by
    cases gives with
    | homeless => rfl
    | missing => rfl
    | written known => cases known

/-- A file that is named by a year is found either way, because the point in its name is not the point
of a number. -/
theorem named_by_year : TextAgrees (textReader fixturesKey "2024.json") [] [] "SRCFACTS_FIXTURES"
    "2024.json" fixturesKey none "settings.json" :=
  text_agrees (by decide) rfl .nothing rfl (unset_of_homeless _ _)
    (asks_textReader rfl) (by funext other; rw [lookup_cons_ite]; rfl)

/-- A template that is a number is refused as a variable, and one between blanks loses them. -/
theorem number_refused :
    load ⟨textReader templateKey "42", [("SRCFACTS_TEMPLATE", "42")]⟩ none = .error .unloadable ∧
      load ⟨textReader templateKey "42", []⟩ (some "settings.json") =
        .ok ⟨none, none, some "42", none⟩ ∧
    load ⟨textReader templateKey " x ", [("SRCFACTS_TEMPLATE", " x ")]⟩ none =
        .ok ⟨none, none, some "x", none⟩ ∧
      load ⟨textReader templateKey " x ", []⟩ (some "settings.json") =
        .ok ⟨none, none, some " x ", none⟩ :=
  ⟨rfl, load_textReader rfl, rfl, load_textReader rfl⟩

end Settings
end LinkFacts
