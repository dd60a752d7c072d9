import Phrasebook.Check

namespace Phrasebook

namespace Check

/-- A reference is found fault with for its form, for a name that no template has, or for the number
of its arguments. -/
theorem mem_reference_iff {definitions : List Template} {location : Location} {text : String}
    {d : Diagnostic} : d ∈ reference definitions location text ↔
      (∃ e, Reference.parse text = .error e ∧ d = .invalidReference e.message location) ∨
      ∃ r, Reference.parse text = .ok r ∧
        (((definitions.find? fun t => t.name == r.name) = none ∧
            d = .unknownTemplate r.name location) ∨
          ∃ target arguments, (definitions.find? fun t => t.name == r.name) = some target ∧
            r.arguments = some arguments ∧
            acceptsArguments target.parameters.length arguments.length = false ∧
            d = .argumentCountMismatch r.name target.parameters.length arguments.length
              location) := by
  unfold reference
  cases hparse : Reference.parse text with
  | error e => simp
  | ok r =>
    cases hfind : definitions.find? fun t => t.name == r.name with
    | none => simp [hfind, -List.find?_eq_none]
    | some target =>
      cases harguments : r.arguments with
      | none => simp [hfind, harguments, -List.find?_eq_none]
      | some arguments =>
        cases haccepts : acceptsArguments target.parameters.length arguments.length <;>
          simp [hfind, harguments, haccepts, -List.find?_eq_none]

/-- What a finding about the templates has to do with one of them: another template has taken its
name before, or one of its references or parameters is found fault with. -/
inductive Concerns (templates : List Template) (t : Template) : Diagnostic → Prop where
  | name {before after : List Template} {first : Template}
      (hsplit : templates = before ++ t :: after)
      (hfirst : (before.find? fun s => s.name == t.name) = some first) :
      Concerns templates t (.duplicateTemplate t.name t.location first.location)
  | reference {line : Line} {text : String} {d : Diagnostic} (hline : line ∈ t.body.allLines)
      (htext : text ∈ line.references) (hd : d ∈ reference templates line.location text) :
      Concerns templates t d
  | parameter {p : String} (hp : p ∈ t.parameters)
      (hunused : mentions (mentionedText t) p = false) :
      Concerns templates t (.unusedParameter p t.name t.location)

/-- The first templates of their names are found among those seen as among all in front. -/
theorem exists_of_mem_duplicates {seen ts : List Template} {d : Diagnostic}
    (front : List Template)
    (hseen : ∀ name, (seen.find? fun s => s.name == name) = front.find? fun s => s.name == name)
    (h : d ∈ duplicates seen ts) :
    ∃ before t after first, ts = before ++ t :: after ∧
      ((front ++ before).find? fun s => s.name == t.name) = some first ∧
        d = .duplicateTemplate t.name t.location first.location := by
  induction ts generalizing seen front with
  | nil => cases h
  | cons t ts ih =>
    have hmore {seen' : List Template}
        (hseen' : ∀ name, (seen'.find? fun s => s.name == name) =
          (front ++ [t]).find? fun s => s.name == name) (h : d ∈ duplicates seen' ts) :
        ∃ before u after first, t :: ts = before ++ u :: after ∧
          ((front ++ before).find? fun s => s.name == u.name) = some first ∧
            d = .duplicateTemplate u.name u.location first.location := by
      obtain ⟨before, u, after, first, rfl, hfirst, hd⟩ := ih (front ++ [t]) hseen' h
      rw [List.append_assoc, List.singleton_append] at hfirst
      exact ⟨t :: before, u, after, first, rfl, hfirst, hd⟩
    unfold duplicates at h
    split at h
    · rename_i first hfirst
      rcases List.mem_cons.1 h with rfl | h
      · rw [hseen] at hfirst
        exact ⟨[], t, ts, first, rfl, by rwa [List.append_nil], rfl⟩
      · refine hmore (fun name => ?_) h
        rw [List.find?_append, hseen]
        by_cases hname : t.name = name
        · rw [← hname, ← hseen, hfirst]
          rfl
        · simp [hname]
    · refine hmore (fun name => ?_) h
      rw [List.find?_append, List.find?_append, hseen]

theorem exists_concerns {fs : List SourceFile} {d : Diagnostic}
    (h : d ∈ (files fs).diagnostics) :
    ∃ t ∈ fs.flatMap SourceFile.templates, Concerns (fs.flatMap SourceFile.templates) t d := by
  rcases List.mem_append.1 h with h | h
  · obtain ⟨before, t, after, first, hsplit, hfirst, rfl⟩ :=
      exists_of_mem_duplicates [] (fun _ => rfl) h
    refine ⟨t, ?_, .name hsplit hfirst⟩
    rw [hsplit]
    exact List.mem_append_right _ List.mem_cons_self
  · obtain ⟨t, ht, h⟩ := List.mem_flatMap.1 h
    refine ⟨t, ht, ?_⟩
    rcases List.mem_append.1 h with h | h
    · obtain ⟨line, hline, h⟩ := List.mem_flatMap.1 h
      obtain ⟨text, htext, hd⟩ := List.mem_flatMap.1 h
      exact .reference hline htext hd
    · obtain ⟨p, hp, rfl⟩ := List.mem_map.1 h
      obtain ⟨hp, hunused⟩ := List.mem_filter.1 hp
      exact .parameter hp (by simpa using hunused)

/-- Whatever is found fault with in a reference of a template is reported. -/
theorem mem_diagnostics_of_reference {fs : List SourceFile} {t : Template} {line : Line}
    {text : String} {d : Diagnostic} (ht : t ∈ fs.flatMap SourceFile.templates)
    (hline : line ∈ t.body.allLines) (htext : text ∈ line.references)
    (hd : d ∈ reference (fs.flatMap SourceFile.templates) line.location text) :
    d ∈ (files fs).diagnostics := by
  refine List.mem_append_right _ (List.mem_flatMap.2 ⟨t, ht, List.mem_append_left _ ?_⟩)
  exact List.mem_flatMap.2 ⟨line, hline, List.mem_flatMap.2 ⟨text, htext, hd⟩⟩

theorem split_at_last {α : Type} {c : α} {as as' bs bs' : List α} (hbs : c ∉ bs) (hbs' : c ∉ bs')
    (h : as ++ c :: bs = as' ++ c :: bs') : as = as' ∧ bs = bs' := by
  rcases List.append_eq_append_iff.1 h with ⟨more, rfl, hmore⟩ | ⟨more, rfl, hmore⟩
  · cases more with
    | nil => exact ⟨(List.append_nil _).symm, (List.cons.inj hmore).2⟩
    | cons d more =>
      obtain ⟨rfl, rfl⟩ := List.cons.inj hmore
      exact absurd (List.mem_append_right _ List.mem_cons_self) hbs
  · cases more with
    | nil => exact ⟨List.append_nil _, (List.cons.inj hmore).2.symm⟩
    | cons d more =>
      obtain ⟨rfl, rfl⟩ := List.cons.inj hmore
      exact absurd (List.mem_append_right _ List.mem_cons_self) hbs'

theorem split_at_first {α : Type} {c : α} {as as' bs bs' : List α} (has : c ∉ as) (has' : c ∉ as')
    (h : as ++ c :: bs = as' ++ c :: bs') : as = as' ∧ bs = bs' := by
  have hreverse := congrArg List.reverse h
  simp only [List.reverse_append, List.reverse_cons, List.append_assoc,
    List.singleton_append] at hreverse
  obtain ⟨hbs, has⟩ := split_at_last (by simpa using has) (by simpa using has') hreverse
  exact ⟨List.reverse_inj.1 has, List.reverse_inj.1 hbs⟩

theorem blank_not_mem_digits (n : Nat) : ' ' ∉ (toString n).toList := by
  intro h
  have hdigit := Nat.isDigit_of_mem_toDigits (by decide) (by decide) (Nat.toList_repr ▸ h)
  contradiction

theorem toString_inj {m n : Nat} (h : (toString m).toList = (toString n).toList) : m = n := by
  change m.repr.toList = n.repr.toList at h
  rw [Nat.toList_repr, Nat.toList_repr] at h
  rw [← Nat.ofDigitChars_ten_toDigits (n := m), h, Nat.ofDigitChars_ten_toDigits]

/-- A number behind a blank is told apart from the text in front. -/
theorem split_number {front front' word : List Char} {m n : Nat} (hword : word.getLast? = some ' ')
    (h : front ++ word ++ (toString m).toList = front' ++ word ++ (toString n).toList) :
    front = front' ∧ m = n := by
  obtain ⟨word, rfl⟩ := List.getLast?_eq_some_iff.1 hword
  simp only [← List.append_assoc] at h
  simp only [List.append_assoc _ [' '], List.singleton_append] at h
  obtain ⟨hfront, hnumber⟩ := split_at_last (blank_not_mem_digits m) (blank_not_mem_digits n) h
  exact ⟨List.append_cancel_right hfront, toString_inj hnumber⟩

theorem argumentCountMismatch_inj {name name' : String} {expected expected' found found' : Nat}
    {location location' : Location}
    (h : Diagnostic.argumentCountMismatch name expected found location =
      .argumentCountMismatch name' expected' found' location') :
    name = name' ∧ expected = expected' ∧ found = found' := by
  have hmessage := congrArg String.toList (congrArg Diagnostic.message h)
  simp only [Diagnostic.argumentCountMismatch, String.toList_append] at hmessage
  obtain ⟨hfront, rfl⟩ := split_number (by decide) hmessage
  obtain ⟨hname, rfl⟩ := split_number (by decide) hfront
  exact ⟨String.toList_inj.1 (List.append_cancel_left hname), rfl, rfl⟩

/-- A hint tells the parameter, which has no quotes, and the template. -/
theorem unusedParameter_inj {p p' name name' : String} {location location' : Location}
    (hp : Name.isIdentifier p) (hp' : Name.isIdentifier p')
    (h : Diagnostic.unusedParameter p name location = .unusedParameter p' name' location') :
    p = p' ∧ name = name' := by
  have hmessage := congrArg String.toList (congrArg Diagnostic.message h)
  simp only [Diagnostic.unusedParameter, String.toList_append] at hmessage
  have hquote : "' of template '".toList = '\x27' :: " of template '".toList := rfl
  simp only [hquote, List.append_assoc, List.cons_append] at hmessage
  obtain ⟨hparameter, hrest⟩ := split_at_first
    (Name.not_mem_of_isIdentifierChars hp (by decide))
    (Name.not_mem_of_isIdentifierChars hp' (by decide)) (List.append_cancel_left hmessage)
  have hname := List.append_cancel_right (List.append_cancel_left hrest)
  exact ⟨String.toList_inj.1 hparameter, String.toList_inj.1 hname⟩

end Check

end Phrasebook
