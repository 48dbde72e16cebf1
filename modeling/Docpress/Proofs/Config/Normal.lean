import Docpress.Config.Options
import Mathlib.Data.List.Induction
import Mathlib.Logic.Equiv.Basic
/-!
The normal form of options. Options that are accepted can be written down as the values that they
have, and those are read as they stand: nothing is read a second time into something else. The two
names of the option that gives headings identifiers mean the same.
-/

namespace Docpress

/-- The value is one that JSON has: null, a flag, a number, a string, an array or an object. -/
inductive Value.IsJson : Value → Prop where
  | null : IsJson .null
  | flag (b : Bool) : IsJson (.flag b)
  | whole (n : Int) : IsJson (.whole n)
  | real (x : Binary64) : IsJson (.real x)
  | text (s : Text) : IsJson (.text s)
  | brokenText : IsJson .brokenText
  | list {items : List Value} (hitems : ∀ v ∈ items, IsJson v) : IsJson (.list items)
  | mapping {entries : List (Value × Value)} (hkeys : ∀ entry ∈ entries, entry.1.isText = true)
      (hvalues : ∀ entry ∈ entries, IsJson entry.2) : IsJson (.mapping entries)

/-- The setting of highlighting as a value. -/
def HighlightSetting.value : HighlightSetting → Value
  | .flag on => .flag on
  | .named name => .text name

/-- Options as the entries of a mapping. -/
def MarkdownConfig.entries (c : MarkdownConfig) : List (Value × Value) :=
  [(.text "parser".toList, .text c.parser),
    (.text "highlight".toList, c.highlight.value),
    (.text "hardwrap".toList, .flag c.hardwrap),
    (.text "id_in_headings".toList, .flag c.idInHeadings)]

/-- An entry with another name for its key. -/
def renameKey (rename : Text → Text) : Value × Value → Value × Value
  | (.text s, v) => (.text (rename s), v)
  | entry => entry

/-- The same issue, with other names in its place. -/
def Issue.rename (rename : Text → Text) (i : Issue) : Issue :=
  { i with place := i.place.map rename }

/-- The same value, with other names in the places of the issues. -/
def Reading.rename {α : Type} (rename : Text → Text) (r : Reading α) : Reading α :=
  { r with issues := r.issues.map (Issue.rename rename) }

/-- The options that four readings give, or the issues of all of them. -/
def MarkdownConfig.ofReadings (parser : Reading Text) (highlight : Reading HighlightSetting)
    (hardwrap idInHeadings : Reading Bool) : Except (List Issue) MarkdownConfig :=
  match parser.issues ++ highlight.issues ++ hardwrap.issues ++ idInHeadings.issues with
  | [] => .ok ⟨parser.value, highlight.value, hardwrap.value, idInHeadings.value⟩
  | issues => .error issues

/-- Exchange the two names of the option that gives headings identifiers. -/
def exchangeHeading : Equiv.Perm Text :=
  Equiv.swap "idInHeadings".toList "id_in_headings".toList

variable {entries : List (Value × Value)} {name : Text} {v : Value}

/-! ### Values of a mapping -/

theorem valueOf?_concat_self (entries : List (Value × Value)) (name : Text) (v : Value) :
    valueOf? name (entries ++ [(.text name, v)]) = some v := by
  simp [valueOf?]

theorem valueOf?_concat_of_ne {key : Value} (hkey : key ≠ .text name)
    (entries : List (Value × Value)) (v : Value) :
    valueOf? name (entries ++ [(key, v)]) = valueOf? name entries := by
  cases key with
  | text s =>
    have hs : s ≠ name := fun heq => hkey (congrArg Value.text heq)
    simp [valueOf?, hs]
  | _ => simp [valueOf?]

theorem mem_of_valueOf? (h : valueOf? name entries = some v) : (.text name, v) ∈ entries := by
  induction entries using List.reverseRecOn with
  | nil => cases h
  | append_singleton entries entry ih =>
    obtain ⟨key, value⟩ := entry
    by_cases hkey : key = .text name
    · subst hkey
      rw [valueOf?_concat_self, Option.some.injEq] at h
      simp [h]
    · rw [valueOf?_concat_of_ne hkey] at h
      exact List.mem_append_left _ (ih h)

/-- A value is found under the new name when the keys are renamed. -/
theorem valueOf?_rename {rename : Text → Text} (hrename : Function.Injective rename)
    (name : Text) (entries : List (Value × Value)) :
    valueOf? (rename name) (entries.map (renameKey rename)) = valueOf? name entries := by
  induction entries using List.reverseRecOn with
  | nil => rfl
  | append_singleton entries entry ih =>
    obtain ⟨key, v⟩ := entry
    rw [List.map_append, List.map_singleton]
    by_cases hkey : key = .text name
    · subst hkey
      exact (valueOf?_concat_self _ _ _).trans (valueOf?_concat_self _ _ _).symm
    · rw [valueOf?_concat_of_ne hkey, ← ih]
      cases key with
      | text s =>
        refine valueOf?_concat_of_ne (fun heq => hkey ?_) _ _
        rw [hrename (Value.text.inj heq)]
      | _ => exact valueOf?_concat_of_ne (by simp) _ _

/-! ### Normal form -/

/-- The name of a parser that is read from JSON is not empty. -/
theorem readParser_ne_nil (hv : v.IsJson) {s : Text} (h : readParser v = .ok s) : s ≠ [] := by
  cases hv with
  | null =>
    cases h
    exact List.cons_ne_nil _ _
  | text s =>
    cases s with
    | nil =>
      cases h
      exact List.cons_ne_nil _ _
    | cons c s =>
      cases h
      exact List.cons_ne_nil c s
  | _ => cases h

/-- Options whose parser has a name are read as they are written down. -/
theorem MarkdownConfig.ofEntries_entries {c : MarkdownConfig} (hparser : c.parser ≠ []) :
    ofEntries c.entries = .ok c := by
  obtain ⟨parser, highlight, hardwrap, idInHeadings⟩ := c
  obtain ⟨first, rest, rfl⟩ := List.exists_cons_of_ne_nil hparser
  cases highlight <;> rfl

theorem MarkdownConfig.ofEntries_eq_ofReadings (entries : List (Value × Value)) :
    ofEntries entries = ofReadings
      (.ofOption ["parser".toList] "marked".toList readParser (valueOf? "parser".toList entries))
      (readHighlight ["highlight".toList] (valueOf? "highlight".toList entries))
      (.ofOption ["hardwrap".toList] false readFlag (valueOf? "hardwrap".toList entries))
      (.ofOption [(headingOption entries).1] false readFlag (headingOption entries).2) :=
  rfl

theorem MarkdownConfig.parser_of_ofReadings {parser : Reading Text}
    {highlight : Reading HighlightSetting} {hardwrap idInHeadings : Reading Bool}
    {c : MarkdownConfig} (h : ofReadings parser highlight hardwrap idInHeadings = .ok c) :
    c.parser = parser.value := by
  unfold ofReadings at h
  split at h
  · cases h
    rfl
  · cases h

/-- The parser of options that are accepted has a name: the one that is read, or that of the
    default. -/
theorem MarkdownConfig.parser_ne_nil (hentries : (Value.mapping entries).IsJson)
    {c : MarkdownConfig} (h : ofEntries entries = .ok c) : c.parser ≠ [] := by
  have hdefault : "marked".toList ≠ [] := List.cons_ne_nil _ _
  rw [ofEntries_eq_ofReadings] at h
  rw [parser_of_ofReadings h]
  cases hfound : valueOf? "parser".toList entries with
  | none => exact hdefault
  | some v =>
    cases hentries with
    | mapping _ hvalues =>
      have hv : v.IsJson := hvalues _ (mem_of_valueOf? hfound)
      rw [Reading.ofOption]
      cases hread : readParser v with
      | error c => exact hdefault
      | ok s => exact readParser_ne_nil hv hread

/-! ### Two names for one option -/

section Rename

variable {rename : Text → Text}

theorem Reading.rename_ofOption {α : Type} (rename : Text → Text) (place : List Text) (default : α)
    (read : Value → Except Complaint α) (v : Option Value) :
    (Reading.ofOption place default read v).rename rename =
      .ofOption (place.map rename) default read v := by
  cases v with
  | none => rfl
  | some v =>
    rw [ofOption, ofOption]
    cases read v <;> rfl

theorem Reading.rename_readHighlight (hbool : rename "bool".toList = "bool".toList)
    (hstr : rename "str".toList = "str".toList) (place : List Text) (v : Option Value) :
    (readHighlight place v).rename rename = readHighlight (place.map rename) v := by
  unfold readHighlight
  split
  · rfl
  · rfl
  · rfl
  · split
    · rfl
    · rfl
    · rw [Reading.rename, List.map_cons, List.map_singleton, Issue.rename, Issue.rename,
        List.map_append, List.map_append, List.map_singleton, List.map_singleton, hbool, hstr]

theorem MarkdownConfig.ofReadings_rename (rename : Text → Text) (parser : Reading Text)
    (highlight : Reading HighlightSetting) (hardwrap idInHeadings : Reading Bool) :
    ofReadings (parser.rename rename) (highlight.rename rename) (hardwrap.rename rename)
        (idInHeadings.rename rename) =
      (ofReadings parser highlight hardwrap idInHeadings).mapError
        (List.map (Issue.rename rename)) := by
  simp only [ofReadings, Reading.rename, ← List.map_append]
  cases parser.issues ++ highlight.issues ++ hardwrap.issues ++ idInHeadings.issues <;> rfl

end Rename

/-- With one of the two names at most, the option is read in the same way under the other name. -/
theorem headingOption_exchange (h : valueOf? "idInHeadings".toList entries = none ∨
    valueOf? "id_in_headings".toList entries = none) :
    Reading.ofOption [(headingOption (entries.map (renameKey exchangeHeading))).1] false readFlag
        (headingOption (entries.map (renameKey exchangeHeading))).2 =
      (Reading.ofOption [(headingOption entries).1] false readFlag
        (headingOption entries).2).rename exchangeHeading := by
  have hfirst := valueOf?_rename exchangeHeading.injective "id_in_headings".toList entries
  have hsecond := valueOf?_rename exchangeHeading.injective "idInHeadings".toList entries
  rw [show exchangeHeading "id_in_headings".toList = "idInHeadings".toList from
    Equiv.swap_apply_right _ _] at hfirst
  rw [show exchangeHeading "idInHeadings".toList = "id_in_headings".toList from
    Equiv.swap_apply_left _ _] at hsecond
  rw [Reading.rename_ofOption, List.map_singleton, headingOption, headingOption, hfirst, hsecond]
  cases hcamel : valueOf? "idInHeadings".toList entries with
  | none => cases valueOf? "id_in_headings".toList entries <;> rfl
  | some v =>
    rw [hcamel] at h
    rw [h.resolve_left (Option.some_ne_none v)]
    rfl

/-- Exchanging the two names gives the same options, or the same issues with the names exchanged. -/
theorem MarkdownConfig.ofEntries_exchange (h : valueOf? "idInHeadings".toList entries = none ∨
    valueOf? "id_in_headings".toList entries = none) :
    ofEntries (entries.map (renameKey exchangeHeading)) =
      (ofEntries entries).mapError (List.map (Issue.rename exchangeHeading)) := by
  have hsame {name : Text} (hname : name ≠ "idInHeadings".toList ∧
      name ≠ "id_in_headings".toList) : exchangeHeading name = name :=
    Equiv.swap_apply_of_ne_of_ne hname.1 hname.2
  have hkept {name : Text} (hname : name ≠ "idInHeadings".toList ∧
      name ≠ "id_in_headings".toList) :
      valueOf? name (entries.map (renameKey exchangeHeading)) = valueOf? name entries := by
    have hfound := valueOf?_rename exchangeHeading.injective name entries
    rwa [hsame hname] at hfound
  have hread {α : Type} {name : Text} (hname : name ≠ "idInHeadings".toList ∧
      name ≠ "id_in_headings".toList) (default : α) (read : Value → Except Complaint α) :
      Reading.ofOption [name] default read (valueOf? name (entries.map (renameKey exchangeHeading))) =
        (Reading.ofOption [name] default read (valueOf? name entries)).rename exchangeHeading := by
    rw [Reading.rename_ofOption, List.map_singleton, hsame hname, hkept hname]
  have hhighlight := Reading.rename_readHighlight (hsame (by decide)) (hsame (by decide))
    ["highlight".toList] (valueOf? "highlight".toList entries)
  rw [List.map_singleton, hsame (by decide)] at hhighlight
  rw [ofEntries_eq_ofReadings, ofEntries_eq_ofReadings, ← ofReadings_rename, hread (by decide),
    hread (by decide), hkept (by decide), hhighlight, headingOption_exchange h]

/-- Options that are accepted are in normal form: the parser has a name, highlighting is a flag or a
    name, and the four values are read as they stand, as those of all options whose parser has a name
    are. With one of the two names of the option that gives headings identifiers at most, the other
    name does the same, also where options are refused. -/
theorem MarkdownConfig.ofEntries_normal (h : (Value.mapping entries).IsJson) :
    (∀ c, ofEntries entries = .ok c → c.parser ≠ [] ∧
      ((∃ on, c.highlight = .flag on) ∨ ∃ name, c.highlight = .named name) ∧
      ofEntries c.entries = .ok c) ∧
    (∀ c : MarkdownConfig, c.parser ≠ [] → ofEntries c.entries = .ok c) ∧
    (valueOf? "idInHeadings".toList entries = none ∨
        valueOf? "id_in_headings".toList entries = none →
      ofEntries (entries.map (renameKey exchangeHeading)) =
        (ofEntries entries).mapError (List.map (Issue.rename exchangeHeading))) := by
  refine ⟨fun c hc => ?_, fun c => ofEntries_entries, ofEntries_exchange⟩
  have hparser := parser_ne_nil h hc
  refine ⟨hparser, ?_, ofEntries_entries hparser⟩
  cases c.highlight with
  | flag on => exact .inl ⟨on, rfl⟩
  | named name => exact .inr ⟨name, rfl⟩

/-- Values that are read as others, and an option that cannot be read under either name. -/
theorem MarkdownConfig.ofEntries_normal_coerced :
    let given : List (Value × Value) := [(.text "parser".toList, .null),
      (.text "highlight".toList, .whole 1), (.text "hardwrap".toList, .text "Yes".toList),
      (.text "id_in_headings".toList, .real (.finite 0 0)), (.text "more".toList, .list [.null])]
    let refused : List (Value × Value) := [(.text "parser".toList, .text []),
      (.text "highlight".toList, .list []), (.text "idInHeadings".toList, .whole 2)]
    let c : MarkdownConfig := { highlight := .flag true, hardwrap := true }
    ofEntries given = .ok c ∧ ofEntries c.entries = .ok c ∧
      ofEntries refused = .error [⟨["highlight".toList, "bool".toList], .notFlag⟩,
        ⟨["highlight".toList, "str".toList], .notText⟩,
        ⟨["idInHeadings".toList], .unreadableFlag⟩] ∧
      ofEntries (refused.map (renameKey exchangeHeading)) =
        .error [⟨["highlight".toList, "bool".toList], .notFlag⟩,
          ⟨["highlight".toList, "str".toList], .notText⟩,
          ⟨["id_in_headings".toList], .unreadableFlag⟩] := by
  intro given refused c
  have hgiven : (Value.mapping given).IsJson := by
    refine .mapping (by decide) ?_
    simp only [given, List.forall_mem_cons]
    exact ⟨.null, .whole 1, .text _, .real _, .list (List.forall_mem_singleton.2 .null),
      List.forall_mem_nil _⟩
  have hrefused : (Value.mapping refused).IsJson := by
    refine .mapping (by decide) ?_
    simp only [refused, List.forall_mem_cons]
    exact ⟨.text [], .list (List.forall_mem_nil _), .whole 2, List.forall_mem_nil _⟩
  have hread : ofEntries given = .ok c := by decide +kernel
  have hissues : ofEntries refused = .error [⟨["highlight".toList, "bool".toList], .notFlag⟩,
      ⟨["highlight".toList, "str".toList], .notText⟩,
      ⟨["idInHeadings".toList], .unreadableFlag⟩] := by
    decide +kernel
  obtain ⟨-, -, hagain⟩ := (ofEntries_normal hgiven).1 c hread
  refine ⟨hread, hagain, hissues, ?_⟩
  rw [(ofEntries_normal hrefused).2.2 (.inr (by rfl)), hissues]
  decide +kernel

end Docpress
