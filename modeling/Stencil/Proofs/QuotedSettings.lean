import Stencil.Proofs.Grammar
import Stencil.Proofs.Outcome
import Stencil.Proofs.Text.Lines
import Stencil.Proofs.Text.Search
import Stencil.SettingsFile

/-!
This module contains the proof that a settings file can set every delimiter. Arguments in quotes come
out of a line as they were put in, and nothing that is done to the line before touches them.
-/

namespace Stencil

namespace Configuration

inductive Joined : List (List Char) → List Char → Prop where
  | nil : Joined [] []
  | single (word : List Char) : Joined [word] (quoted '"' word)
  | cons (word : List Char) {gap text : List Char} {words : List (List Char)} :
    gap ≠ [] → (∀ c ∈ gap, Unicode.isAsciiBlank c = true) → Joined words text →
      Joined (word :: words) (quoted '"' word ++ (gap ++ text))

theorem joined_intercalate {gap : List Char} (hne : gap ≠ [])
    (hgap : ∀ c ∈ gap, Unicode.isAsciiBlank c = true) (words : List (List Char)) :
    Joined words (gap.intercalate (words.map (quoted '"'))) := by
  induction words with
  | nil => exact .nil
  | cons word rest ih =>
    cases rest with
    | nil => simpa using Joined.single word
    | cons next rest =>
      have := Joined.cons word hne hgap ih
      simpa [List.intercalate] using this

theorem tokens_quote (inside : Bool) (token rest : List Char) :
    tokens inside token ('"' :: rest) = tokens (!inside) token rest := by
  rw [tokens.eq_def]
  rfl

theorem tokens_backslash (token : List Char) (c : Char) (rest : List Char) :
    tokens true token ('\\' :: c :: rest) = tokens true (c :: token) rest := by
  rw [tokens.eq_def]
  rfl

theorem tokens_blank {c : Char} (h : Unicode.isAsciiBlank c = true) (token rest : List Char) :
    tokens false token (c :: rest) = tokens.finish token (tokens false [] rest) := by
  have hquote : (c == '"') = false := by
    rw [beq_eq_false_iff_ne]
    rintro rfl
    exact absurd h (by decide)
  rw [tokens.eq_def]
  simp [hquote, h]

theorem tokens_inside {c : Char} (hquote : c ≠ '"') (hescape : c ≠ '\\') (token rest : List Char) :
    tokens true token (c :: rest) = tokens true (c :: token) rest := by
  rw [tokens.eq_def]
  simp [hquote, hescape]

theorem tokens_outside {c : Char} (hquote : c ≠ '"') (hblank : Unicode.isAsciiBlank c = false)
    (token rest : List Char) : tokens false token (c :: rest) = tokens false (c :: token) rest := by
  rw [tokens.eq_def]
  simp [hquote, hblank]

theorem tokens_escaped (token cs rest : List Char) :
    tokens true token (escaped '"' cs ++ '"' :: rest) = tokens false (cs.reverse ++ token) rest := by
  induction cs generalizing token with
  | nil => exact tokens_quote true token rest
  | cons c cs ih =>
    have hcons : escaped '"' (c :: cs)
        = (if c = '"' ∨ c = '\\' then ['\\', c] else [c]) ++ escaped '"' cs := rfl
    rw [hcons, List.reverse_cons, List.append_assoc, List.append_assoc, List.singleton_append, ← ih]
    split
    . exact tokens_backslash token c _
    . next hc =>
      rw [not_or] at hc
      exact tokens_inside hc.1 hc.2 token _

theorem tokens_quoted (token cs rest : List Char) :
    tokens false token (quoted '"' cs ++ rest) = tokens false (cs.reverse ++ token) rest := by
  rw [quoted, List.cons_append, tokens_quote, List.append_assoc, List.singleton_append]
  exact tokens_escaped token cs rest

theorem tokens_bare {word : List Char}
    (h : ∀ c ∈ word, c ≠ '"' ∧ Unicode.isAsciiBlank c = false) (token rest : List Char) :
    tokens false token (word ++ rest) = tokens false (word.reverse ++ token) rest := by
  induction word generalizing token with
  | nil => rfl
  | cons c word ih =>
    rw [List.forall_mem_cons] at h
    rw [List.cons_append, tokens_outside h.1.1 h.1.2, ih h.2,
      List.reverse_cons, List.append_assoc, List.singleton_append]

theorem tokens_gap {gap : List Char} (hne : gap ≠ [])
    (h : ∀ c ∈ gap, Unicode.isAsciiBlank c = true) (token rest : List Char) :
    tokens false token (gap ++ rest) = tokens.finish token (tokens false [] rest) := by
  induction gap generalizing token with
  | nil => exact absurd rfl hne
  | cons c gap ih =>
    rw [List.forall_mem_cons] at h
    rw [List.cons_append, tokens_blank h.1]
    cases gap with
    | nil => rfl
    | cons c gap =>
      rw [ih (List.cons_ne_nil _ _) h.2]
      rfl

theorem finish_reverse {word : List Char} (hne : word ≠ []) (others : List (List Char)) :
    tokens.finish word.reverse others = word :: others := by
  have hfalse : word.reverse.isEmpty = false := by
    simpa using hne
  rw [tokens.finish, hfalse, if_neg Bool.false_ne_true, List.reverse_reverse]

theorem splitArguments_of_joined {words : List (List Char)} {text : List Char}
    (h : Joined words text) (hne : ∀ word ∈ words, word ≠ []) : splitArguments text = words := by
  rw [splitArguments]
  induction h with
  | nil => rfl
  | single word =>
    have hword := hne word (List.mem_singleton_self word)
    have hquoted := tokens_quoted [] word []
    rw [List.append_nil, List.append_nil] at hquoted
    rw [hquoted]
    exact finish_reverse hword []
  | cons word hgap hblank _ ih =>
    rw [List.forall_mem_cons] at hne
    rw [tokens_quoted, List.append_nil, tokens_gap hgap hblank, finish_reverse hne.1, ih hne.2]

-- One line that sets a delimiter.

def quotedSetting (name : String) (sign : Char) (value : String) : String :=
  "/set " ++ name ++ String.singleton sign ++ String.ofList (quoted '"' value.toList)

def IsPlain (name : String) : Prop :=
  ∀ c ∈ name.toList, c ≠ '"' ∧ c ≠ '=' ∧ c ≠ '\n' ∧ Unicode.isBlank c = false

theorem isBlank_of_isAsciiBlank {c : Char} (h : Unicode.isAsciiBlank c = true) :
    Unicode.isBlank c = true := by
  simp only [Unicode.isAsciiBlank, Bool.or_eq_true, beq_iff_eq] at h
  rcases h with (((rfl | rfl) | rfl) | rfl) | rfl
  all_goals decide

variable {name value : String} {sign : Char}

theorem IsPlain.isBare (h : IsPlain name) :
    ∀ c ∈ name.toList, c ≠ '"' ∧ Unicode.isAsciiBlank c = false := by
  intro c hc
  refine ⟨(h c hc).1, ?_⟩
  by_contra hblank
  rw [Bool.not_eq_false] at hblank
  have := isBlank_of_isAsciiBlank hblank
  rw [(h c hc).2.2.2] at this
  cases this

theorem IsPlain.not_equals (h : IsPlain name) : ∀ c ∈ name.toList, (c == '=') = false := by
  intro c hc
  rw [beq_eq_false_iff_ne]
  exact (h c hc).2.1

theorem splitArguments_equals (hname : IsPlain name) :
    splitArguments (name.toList ++ '=' :: quoted '"' value.toList)
      = [name.toList ++ '=' :: value.toList] := by
  have hreverse : value.toList.reverse ++ '=' :: name.toList.reverse
      = (name.toList ++ '=' :: value.toList).reverse := by
    simp
  have hquoted := tokens_quoted ('=' :: name.toList.reverse) value.toList []
  rw [List.append_nil, hreverse] at hquoted
  rw [splitArguments, tokens_bare hname.isBare, List.append_nil,
    tokens_outside (by decide) (by decide), hquoted]
  exact finish_reverse (by simp) []

theorem splitArguments_space (hname : IsPlain name) (hne : name ≠ "") (hvalue : value ≠ "") :
    splitArguments (name.toList ++ ' ' :: quoted '"' value.toList)
      = [name.toList, value.toList] := by
  have hquoted := splitArguments_of_joined (.single value.toList) (by simpa using hvalue)
  rw [splitArguments] at hquoted
  rw [splitArguments, tokens_bare hname.isBare, List.append_nil, tokens_blank (by decide), hquoted]
  exact finish_reverse (by simpa using hne) _

theorem settingOf_quoted (hname : IsPlain name) (hne : name ≠ "") (hsign : sign = '=' ∨ sign = ' ')
    (hvalue : value ≠ "") :
    settingOf (splitArguments (name.toList ++ sign :: quoted '"' value.toList)) = .ok (name, value) := by
  rcases hsign with rfl | rfl
  . rw [splitArguments_equals hname, settingOf, Text.splitOnceBy?_append hname.not_equals (by decide)]
    simp
  . rw [splitArguments_space hname hne hvalue, settingOf, Text.splitOnceBy?_of_not hname.not_equals]
    simp

theorem trim_append_quoted {c : Char} (h : Unicode.isBlank c = false) (front text : List Char) :
    Text.trim (c :: (front ++ quoted '"' text)) = c :: (front ++ quoted '"' text) := by
  apply Text.trimBy_eq_self
  . rintro c ⟨⟩
    exact h
  . intro last hlast
    have hsplit : c :: (front ++ quoted '"' text)
        = (c :: front ++ '"' :: escaped '"' text) ++ ['"'] := by
      simp [quoted]
    rw [hsplit, List.getLast?_concat] at hlast
    cases hlast
    decide

theorem directive?_quotedSetting (hname : IsPlain name) (hne : name ≠ "") :
    directive? (quotedSetting name sign value).toList
      = some ("set", name.toList ++ sign :: quoted '"' value.toList) := by
  have htoList : (quotedSetting name sign value).toList
      = '/' :: ("set".toList ++ ' ' :: (name.toList ++ sign :: quoted '"' value.toList)) := by
    simp [quotedSetting]
  have htrim : Text.trim (quotedSetting name sign value).toList
      = '/' :: ("set".toList ++ ' ' :: (name.toList ++ sign :: quoted '"' value.toList)) := by
    have hslash : Unicode.isBlank '/' = false := by decide
    have := trim_append_quoted hslash ("set ".toList ++ name.toList ++ [sign]) value.toList
    rw [htoList]
    simpa using this
  have hargs : Text.trim (name.toList ++ sign :: quoted '"' value.toList)
      = name.toList ++ sign :: quoted '"' value.toList := by
    obtain ⟨c, rest, hcons⟩ := List.exists_cons_of_ne_nil (l := name.toList) (by simpa using hne)
    have hc : Unicode.isBlank c = false := (hname c (by simp [hcons])).2.2.2
    have := trim_append_quoted hc (rest ++ [sign]) value.toList
    rw [hcons]
    simpa using this
  have hsplit : Text.splitOnceBy? Unicode.isAsciiBlank
      ("set".toList ++ ' ' :: (name.toList ++ sign :: quoted '"' value.toList))
        = some ("set".toList, name.toList ++ sign :: quoted '"' value.toList) := by
    apply Text.splitOnceBy?_append
    . simp [Unicode.isAsciiBlank]
    . rfl
  simp only [directive?, htrim, hsplit, hargs]
  rfl

variable {H : Type} {now : Int64}

theorem set_start {start : String} (hne : start ≠ "") (c : Configuration H) :
    c.set "start" start = .ok { c with start } := by
  have hfalse : start.isEmpty = false := by
    simpa using hne
  rw [set, hfalse]
  rfl

theorem set_stop {stop : String} (hne : stop ≠ "") (c : Configuration H) :
    c.set "end" stop = .ok { c with stop } := by
  have hfalse : stop.isEmpty = false := by
    simpa using hne
  rw [set, hfalse]
  rfl

variable [HostObject H]

theorem applyLine_quotedSetting (c : Configuration H) (hname : IsPlain name) (hne : name ≠ "")
    (hsign : sign = '=' ∨ sign = ' ') (hvalue : value ≠ "") :
    c.applyLine now (quotedSetting name sign value).toList = c.set name value := by
  have happly : c.applyLine now (quotedSetting name sign value).toList
      = settingOf (splitArguments (name.toList ++ sign :: quoted '"' value.toList))
        >>= fun setting => c.set setting.1 setting.2 := by
    rw [applyLine, directive?_quotedSetting hname hne]
    rfl
  rw [happly, settingOf_quoted hname hne hsign hvalue, Outcome.ok_bind]

theorem not_mem_quotedSetting (hname : IsPlain name) (hsign : sign = '=' ∨ sign = ' ')
    (hvalue : '\n' ∉ value.toList) : '\n' ∉ (quotedSetting name sign value).toList := by
  have hname' : '\n' ∉ name.toList := fun hmem => (hname _ hmem).2.2.1 rfl
  have hsign' : '\n' ≠ sign := by
    rcases hsign with rfl | rfl
    all_goals decide
  have hescaped : '\n' ∉ escaped '"' value.toList := by
    rw [escaped, List.mem_flatMap]
    rintro ⟨c, hc, hmem⟩
    have hnewline : '\n' = c := by
      split at hmem
      all_goals simpa using hmem
    rw [hnewline] at hvalue
    exact hvalue hc
  simp [quotedSetting, quoted, hname', hsign', hescaped]

theorem getLast?_quotedSetting : (quotedSetting name sign value).toList.getLast? = some '"' := by
  have hconcat : (quotedSetting name sign value).toList
      = ("/set ".toList ++ name.toList ++ sign :: '"' :: escaped '"' value.toList) ++ ['"'] := by
    simp [quotedSetting, quoted]
  rw [hconcat, List.getLast?_concat]

theorem isPlain_start : IsPlain "start" := by
  simp only [IsPlain, String.reduceToList, List.mem_cons, List.not_mem_nil, or_false,
    forall_eq_or_imp, forall_eq]
  decide

theorem isPlain_end : IsPlain "end" := by
  simp only [IsPlain, String.reduceToList, List.mem_cons, List.not_mem_nil, or_false,
    forall_eq_or_imp, forall_eq]
  decide

theorem load_quotedSettings {start stop : String} {sign sign' : Char} (hstart : start ≠ "")
    (hstop : stop ≠ "") (hline : '\n' ∉ start.toList) (hline' : '\n' ∉ stop.toList)
    (hsign : sign = '=' ∨ sign = ' ') (hsign' : sign' = '=' ∨ sign' = ' ') :
    load now (quotedSetting "start" sign start ++ "\n" ++ quotedSetting "end" sign' stop)
      = ({ (default : Configuration H) with start, stop }, []) := by
  have hmem := not_mem_quotedSetting isPlain_start hsign hline
  have hmem' := not_mem_quotedSetting isPlain_end hsign' hline'
  have hlast : (quotedSetting "start" sign start).toList.getLast? ≠ some '\r' := by
    rw [getLast?_quotedSetting]
    decide
  have hne : (quotedSetting "end" sign' stop).toList ≠ [] := by
    intro hnil
    have hlast' : (quotedSetting "end" sign' stop).toList.getLast? = some '"' :=
      getLast?_quotedSetting
    rw [hnil] at hlast'
    cases hlast'
  have hlines : Text.lines
      (quotedSetting "start" sign start ++ "\n" ++ quotedSetting "end" sign' stop).toList
        = [(quotedSetting "start" sign start).toList, (quotedSetting "end" sign' stop).toList] := by
    rw [String.toList_append, String.toList_append, List.append_assoc,
      ← Text.lines_of_not_mem hne hmem']
    exact Text.lines_append hmem hlast _
  rw [load, hlines]
  simp only [applyLines, applyLine_quotedSetting _ isPlain_start (by decide) hsign hstart,
    applyLine_quotedSetting _ isPlain_end (by decide) hsign' hstop, set_start hstart, set_stop hstop]

/--
Words in quotes are read back, whatever blanks are between them. So both delimiters can be set to any
texts of one line; the configuration has no other setting and no variable, and it makes settings with
these delimiters.
-/
theorem load_any_delimiters (now : Int64) :
    (∀ words text, (∀ word ∈ words, word ≠ []) → Joined words text → splitArguments text = words)
      ∧ (∀ words gap, (∀ word ∈ words, word ≠ []) → gap ≠ [] →
        (∀ c ∈ gap, Unicode.isAsciiBlank c = true) →
          splitArguments (gap.intercalate (words.map (quoted '"'))) = words)
      ∧ ∀ (start stop : String) (sign sign' : Char) (hstart : start ≠ "") (hstop : stop ≠ ""),
        '\n' ∉ start.toList → '\n' ∉ stop.toList → (sign = '=' ∨ sign = ' ') →
          (sign' = '=' ∨ sign' = ' ') →
            let c : Configuration H := { default with start, stop }
            load now (quotedSetting "start" sign start ++ "\n" ++ quotedSetting "end" sign' stop)
                = (c, [])
              ∧ c.settings now
                = .ok { Settings.default now with delimiters := ⟨start, stop, hstart, hstop⟩ } := by
  refine ⟨?_, ?_, ?_⟩
  . intro words text hne hjoined
    exact splitArguments_of_joined hjoined hne
  . intro words gap hne hgap hblank
    exact splitArguments_of_joined (joined_intercalate hgap hblank words) hne
  . intro start stop sign sign' hstart hstop hline hline' hsign hsign'
    refine ⟨load_quotedSettings hstart hstop hline hline' hsign hsign', ?_⟩
    rw [settings, Delimiters.ofTexts, dif_pos ⟨hstart, hstop⟩]
    rfl

theorem load_any_delimiters_signs :
    let words := ["a b".toList, "\"=".toList]
    let c : Configuration Empty := { default with start := "\" =;/\\", stop := "=\r" }
    (∀ word ∈ words, word ≠ []) ∧ splitArguments "\"a b\" \t\"\\\"=\"".toList = words
      ∧ load 0 "/set start=\"\\\" =;/\\\\\"\n/set end \"=\r\"" = (c, [])
      ∧ ∃ s, c.settings 0 = .ok s ∧ s.delimiters.start = "\" =;/\\" ∧ s.delimiters.stop = "=\r"
        ∧ s.maxDepth = Settings.defaultMaxDepth := by
  intro words c
  have hwords : ∀ word ∈ words, word ≠ [] := by decide
  obtain ⟨-, hwords', hload⟩ := load_any_delimiters (H := Empty) 0
  obtain ⟨hc, hsettings⟩ := hload "\" =;/\\" "=\r" '=' ' ' (by decide) (by decide) (by decide)
    (by decide) (.inl rfl) (.inr rfl)
  refine ⟨hwords, ?_, ?_, _, hsettings, rfl, rfl, rfl⟩
  . exact hwords' words " \t".toList hwords (by decide) (by simp [Unicode.isAsciiBlank])
  . exact hc

end Configuration

end Stencil
