import PostgresAccess.Proofs.Numeral.Agreement
import PostgresAccess.Proofs.Settings.Precedence

/-!
# A variable and an entry with one text

A field can be given by a text in two ways: through its variable, where the document has nothing,
and as its entry in the document, where no variable is set.  Each way has its own rules for
converting the text: numbers are read strictly from variables and leniently from entries, the words
for truth values differ, and so does what is done about blanks around them.  Yet settings that come
both ways are the same (`parse_variable_entry`).

Numbers are the same because the two readers agree (`Numeral.readInteger_eq_readLenient`).  Truth
values are the same because a word for one has no blanks in it, so where an entry is one, trimming
does not change the text of the variable, and no word is for both (`boolOfVariable_eq_boolOf`).  A
field that is a text needs no conversion: both ways give settings, with the text in the field.
-/

namespace PostgresAccess

theorem Variable.name_injective : Function.Injective Variable.name := by
  intro x y
  cases x <;> cases y <;> decide

namespace Environment

/-- The environment that sets one variable and no other. -/
def only (x : Variable) (text : String) : Environment := .ofPairs [(x.name, text)]

variable {x y : Variable} {text : String}

theorem text?_only (h : text ≠ "") : (only x text).text? x = some text := by
  simp [only, ofPairs, text?, h]

theorem text?_only_of_ne (h : x ≠ y) : (only x text).text? y = none := by
  have hname : x.name ≠ y.name := Variable.name_injective.ne h
  simp [only, ofPairs, text?, hname]

end Environment

namespace Settings

open Environment (only)
open Numeral (readInteger_eq_readLenient readLenient)
open Result
open Text (isBlank)

/-! ## Words for truth values -/

theorem isBlank_of_toLower {c : Char} (h : isBlank c.toLower = false) : isBlank c = false := by
  unfold Char.toLower at h
  split at h
  · rename_i hupper
    obtain ⟨hlow, hhigh⟩ := hupper
    have hlow' : 65 ≤ c.toNat := hlow
    have hhigh' : c.toNat ≤ 90 := hhigh
    exact Text.isBlank_eq_false (by omega) (by omega)
  · exact h

theorem isBlank_of_mem_words {word : String} (h : word ∈ wordsForTrue ++ wordsForFalse) :
    ∀ c ∈ word.toList, isBlank c = false := by
  have hall : ((wordsForTrue ++ wordsForFalse).all fun word =>
      word.toList.all fun c => !isBlank c) = true := by decide +kernel
  intro c hc
  have hword := List.all_eq_true.1 (List.all_eq_true.1 hall word h) c hc
  simpa using hword

/-- A text that is a word as it stands loses nothing when it is trimmed. -/
theorem wordOf_of_mem_words {text : String}
    (h : lowercase text.toList ∈ wordsForTrue ++ wordsForFalse) :
    wordOf text = lowercase text.toList := by
  have hblank : ∀ c ∈ text.toList, isBlank c = false := by
    intro c hc
    have hmem : c.toLower ∈ (lowercase text.toList).toList := by
      rw [lowercase, String.toList_ofList]
      exact List.mem_map_of_mem hc
    exact isBlank_of_toLower (isBlank_of_mem_words h _ hmem)
  have htrim : Text.trim text.toList = text.toList := by
    have hkept := @Text.trimBy_append isBlank [] text.toList [] nofun hblank nofun
    rw [List.nil_append, List.append_nil] at hkept
    exact hkept
  rw [wordOf, htrim]

theorem word_of_boolOf {text : String} {b : Bool} (h : boolOf (.text text) = .ok b) :
    b = true ∧ lowercase text.toList ∈ wordsForTrue ∨
      b = false ∧ lowercase text.toList ∈ wordsForFalse := by
  rw [boolOf] at h
  split at h
  · rename_i hyes
    cases h
    exact .inl ⟨rfl, List.contains_iff_mem.1 hyes⟩
  · split at h
    · rename_i hno
      cases h
      exact .inr ⟨rfl, List.contains_iff_mem.1 hno⟩
    · cases h

/-- A text that is taken for a truth value both ways is taken for the same one. -/
theorem boolOfVariable_eq_boolOf {text : String} {b b' : Bool} (h : boolOfVariable text = .ok b)
    (h' : boolOf (.text text) = .ok b') : b = b' := by
  have hdisjoint : ∀ word ∈ wordsForTrue, word ∉ wordsForFalse := by decide
  have hyes : ∀ word ∈ ["1", "t", "true", "yes", "on"], word ∈ wordsForTrue := by decide
  have hno : ∀ word ∈ ["0", "f", "false", "no", "off"], word ∈ wordsForFalse := by decide
  have hword : wordOf text = lowercase text.toList := by
    refine wordOf_of_mem_words (List.mem_append.2 ?_)
    exact (word_of_boolOf h').imp And.right And.right
  have hvariable := word_of_boolOfVariable h
  rw [hword] at hvariable
  obtain ⟨rfl, hmem⟩ | ⟨rfl, hmem⟩ := hvariable <;>
    obtain ⟨rfl, hmem'⟩ | ⟨rfl, hmem'⟩ := word_of_boolOf h'
  · rfl
  · exact absurd hmem' (hdisjoint _ (hyes _ hmem))
  · exact absurd (hno _ hmem) (hdisjoint _ hmem')
  · rfl

-- each way takes words that the other one refuses
example : boolOfVariable " yes" = .ok true ∧ boolOf (.text " yes") = .error .boolText ∧
    boolOf (.text "Y") = .ok true ∧ boolOfVariable "Y" = .error (.bool "Y") :=
  ⟨rfl, rfl, rfl, rfl⟩

/-! ## The two ways -/

section Ways

variable {f : Field} {x : Variable} {text : String}

/-- The document that has one field, with a text, and nothing else. -/
def entryOf (f : Field) (text : String) : Entries := [(f.name, .text text)]

theorem given_variable (hx : supplier? f = some x) (htext : text ≠ "") :
    given (only x text) [] f = convert f text :=
  (given_of_get?_none rfl).trans (fallback_of_set hx (Environment.text?_only htext))

theorem given_entry : given .empty (entryOf f text) f = .ok (.text text) := by
  have hfound : (entryOf f text).get? f.name = some (.text text) := by
    rw [entryOf, Entries.get?_cons, if_pos rfl]
  rw [given, hfound]

/-- The other fields have their standard values, both ways. -/
theorem given_of_other {g : Field} (hx : supplier? f = some x) (hg : f ≠ g) :
    given (only x text) [] g = .ok (standard g) ∧
      given .empty (entryOf f text) g = .ok (standard g) := by
  constructor
  · refine (given_of_get?_none rfl).trans (fallback_of_unset fun y hy => ?_)
    refine Environment.text?_only_of_ne ?_
    rintro rfl
    exact hg (supplier?_injective hx hy)
  · have hlacking : (entryOf f text).get? g.name = none := by
      rw [entryOf, Entries.get?_cons, if_neg (mt (@Field.name_injective f g) hg)]
      rfl
    exact (given_of_get?_none hlacking).trans (fallback_of_unset fun _ _ => rfl)

theorem readLenient_of_check {content : f.Content} (hf : f = .port ∨ f = .connectTimeout)
    (h : check f (.text text) = .ok content) :
    ∃ n, readLenient text = .ok n ∧ f.toValue content = .int n := by
  obtain rfl | rfl := hf
  all_goals
    obtain ⟨n, hn, rfl⟩ := map_eq_ok.1 (atField_eq_ok.1 h)
    obtain ⟨m, hm, hwithin⟩ := bind_eq_ok.1 hn
    obtain ⟨rfl, -⟩ := within_eq_ok.1 hwithin
    exact ⟨m, mapError_eq_ok.1 hm, rfl⟩

/-- What the text stands for as a variable is what it gives as an entry. -/
theorem toValue_of_check {v : Value} {content : f.Content} (hx : supplier? f = some x)
    (hv : Converts f text v) (h : check f (.text text) = .ok content) : f.toValue content = v := by
  cases hv with
  | integer hf hn =>
    obtain ⟨m, hm, hvalue⟩ := readLenient_of_check hf h
    rw [hvalue, readInteger_eq_readLenient hn hm]
  | yes hword =>
    obtain ⟨b, hb, rfl⟩ := map_eq_ok.1 (atField_eq_ok.1 h)
    rw [boolOfVariable_eq_boolOf (boolOfVariable_of_yes hword) hb]
    rfl
  | no hword =>
    obtain ⟨b, hb, rfl⟩ := map_eq_ok.1 (atField_eq_ok.1 h)
    rw [boolOfVariable_eq_boolOf (boolOfVariable_of_no hword) hb]
    rfl
  | text hf => exact toValue_of_converts hx (.text hf) h

theorem content_eq {g : Field} {content content' : g.Content} (hx : supplier? f = some x)
    (htext : text ≠ "") (h : contentOf (only x text) [] g = .ok content)
    (h' : contentOf .empty (entryOf f text) g = .ok content') : content = content' := by
  by_cases hg : f = g
  · subst hg
    obtain ⟨v, hv, hcheck⟩ := check_of_contentOf h
    rw [given_variable hx htext, convert_eq_ok] at hv
    rw [contentOf_of_given given_entry] at h'
    refine toValue_injective f ?_
    rw [toValue_of_converts hx hv hcheck, toValue_of_check hx hv h']
  · obtain ⟨hvariable, hentry⟩ := given_of_other hx hg
    rw [contentOf_of_given hvariable] at h
    rw [contentOf_of_given hentry, h] at h'
    exact Except.ok.inj h'

/-! ## Fields that are texts -/

/-- The fields that hold the texts of their variables as they are. -/
def textFields : List Field := [.host, .database, .username, .password, .sslmode]

theorem mem_textFields :
    f ∈ textFields ↔ f = .host ∨ f = .database ∨ f = .username ∨ f = .password ∨ f = .sslmode := by
  simp [textFields]

theorem convert_of_mem_textFields (hf : f ∈ textFields) : convert f text = .ok (.text text) := by
  obtain rfl | rfl | rfl | rfl | rfl := mem_textFields.1 hf <;> rfl

theorem admits_of_mem_textFields (hf : f ∈ textFields) (htext : text ≠ "") :
    f.Admits (.text text) := by
  have hnonEmpty : (Value.text text).IsNonEmptyText := ⟨text, rfl, htext⟩
  have hoptional : (Value.text text).IsOptionalText := .inr ⟨text, rfl⟩
  obtain rfl | rfl | rfl | rfl | rfl := mem_textFields.1 hf
  · exact hnonEmpty
  · exact hnonEmpty
  · exact hnonEmpty
  · exact hoptional
  · exact hoptional

theorem exists_content (hx : supplier? f = some x) (hf : f ∈ textFields) (htext : text ≠ "")
    (g : Field) : ∃ content, contentOf (only x text) [] g = .ok content ∧
      contentOf .empty (entryOf f text) g = .ok content := by
  by_cases hg : f = g
  · subst hg
    obtain ⟨content, hcheck, -⟩ := check_of_admits (admits_of_mem_textFields hf htext)
    have hvariable : given (only x text) [] f = .ok (.text text) :=
      (given_variable hx htext).trans (convert_of_mem_textFields hf)
    exact ⟨content, (contentOf_of_given hvariable).trans hcheck,
      (contentOf_of_given given_entry).trans hcheck⟩
  · obtain ⟨hvariable, hentry⟩ := given_of_other hx hg
    obtain ⟨content, hcheck, -⟩ := check_standard g
    exact ⟨content, (contentOf_of_given hvariable).trans hcheck,
      (contentOf_of_given hentry).trans hcheck⟩

/-! ## The main result -/

/-- What holds of the two ways to give a field by a text. -/
structure WaysAgree (f : Field) (x : Variable) (text : String) : Prop where
  /-- Settings that come both ways are the same. -/
  alike : ∀ source source' s t, parse (only x text) source (.table []) = .ok s →
    parse .empty source' (.table (entryOf f text)) = .ok t → s = t
  /-- A field that is a text is always given both ways, and is the text. -/
  kept : f ∈ textFields → ∃ s, f.toValue (s.get f) = .text text ∧ ∀ source source',
    parse (only x text) source (.table []) = .ok s ∧
      parse .empty source' (.table (entryOf f text)) = .ok s

/-- A variable and an entry never disagree about what a text gives to their field. -/
theorem parse_variable_entry (hpair : (f.name, x.name) ∈ variableNames) (htext : text ≠ "") :
    WaysAgree f x text where
  alike source source' s t hs ht := by
    have hx := supplier?_eq_some_iff.2 hpair
    obtain ⟨hvariable, -⟩ := readEntries_eq_ok_iff.1 (parse_eq_ok.1 hs)
    obtain ⟨hentry, -⟩ := readEntries_eq_ok_iff.1 (parse_eq_ok.1 ht)
    have hall : ∀ g, s.get g = t.get g := fun g => content_eq hx htext (hvariable g) (hentry g)
    -- settings are the same if all of their fields are
    rw [← ofFields_get s, funext hall, ofFields_get]
  kept hf := by
    have hx := supplier?_eq_some_iff.2 hpair
    choose content hvariable hentry using exists_content hx hf htext
    have hknown : ∀ entry ∈ entryOf f text, ∃ g : Field, g.name = entry.1 := by
      intro entry hmem
      rw [List.mem_singleton.1 hmem]
      exact ⟨f, rfl⟩
    -- the entry is checked as it is, and its check tells what the field holds
    have hcheck : check f (.text text) = .ok (content f) := by
      rw [← hentry f, contentOf_of_given given_entry]
    have hconverts : Converts f text (.text text) :=
      convert_eq_ok.1 (convert_of_mem_textFields hf)
    refine ⟨ofFields content, ?_, fun source source' => ⟨?_, ?_⟩⟩
    · rw [get_ofFields]
      exact toValue_of_converts hx hconverts hcheck
    · rw [parse_eq_ok, readEntries_eq_ok_iff]
      exact ⟨fun g => by rw [hvariable g, get_ofFields], by simp⟩
    · rw [parse_eq_ok, readEntries_eq_ok_iff]
      exact ⟨fun g => by rw [hentry g, get_ofFields], hknown⟩

end Ways

/-- A number with blanks, zeros and marks around and between its digits is the same both ways, and
so is a word for a truth value in mixed case.  A text is kept with its blanks. -/
theorem parse_variable_entry_mixed :
    (∃ s t, parse (only .port " 0_5433\t") "<mapping>" (.table []) = .ok s ∧
      parse .empty "<mapping>" (.table (entryOf .port " 0_5433\t")) = .ok t ∧
        s.port = .int 5433 ∧ s = t) ∧
    (∃ s t, parse (only .superuser "oFF") "<mapping>" (.table []) = .ok s ∧
      parse .empty "<mapping>" (.table (entryOf .superuser "oFF")) = .ok t ∧
        s.superuser = .bool false ∧ s = t) ∧
    ∃ s : Settings, s.sslmode = .text " verify-full" ∧
      parse (only .sslmode " verify-full") "<mapping>" (.table []) = .ok s ∧
        parse .empty "<mapping>" (.table (entryOf .sslmode " verify-full")) = .ok s := by
  refine ⟨?_, ?_, ?_⟩
  · obtain ⟨s, hs, hport⟩ : ∃ s, parse (only .port " 0_5433\t") "<mapping>" (.table []) = .ok s ∧
        s.port = .int 5433 := ⟨_, rfl, rfl⟩
    obtain ⟨t, ht⟩ : ∃ t, parse .empty "<mapping>" (.table (entryOf .port " 0_5433\t")) = .ok t :=
      ⟨_, rfl⟩
    have hagree : WaysAgree .port .port " 0_5433\t" :=
      parse_variable_entry (by decide) (by decide)
    exact ⟨s, t, hs, ht, hport, hagree.alike _ _ s t hs ht⟩
  · obtain ⟨s, hs, hsuperuser⟩ : ∃ s,
        parse (only .superuser "oFF") "<mapping>" (.table []) = .ok s ∧
          s.superuser = .bool false := ⟨_, rfl, rfl⟩
    obtain ⟨t, ht⟩ : ∃ t, parse .empty "<mapping>" (.table (entryOf .superuser "oFF")) = .ok t :=
      ⟨_, rfl⟩
    have hagree : WaysAgree .superuser .superuser "oFF" :=
      parse_variable_entry (by decide) (by decide)
    exact ⟨s, t, hs, ht, hsuperuser, hagree.alike _ _ s t hs ht⟩
  · have hagree : WaysAgree .sslmode .sslmode " verify-full" :=
      parse_variable_entry (by decide) (by decide)
    obtain ⟨s, hvalue, hparse⟩ := hagree.kept (by decide)
    exact ⟨s, hvalue, (hparse "<mapping>" "<mapping>").1, (hparse "<mapping>" "<mapping>").2⟩

end Settings

end PostgresAccess
