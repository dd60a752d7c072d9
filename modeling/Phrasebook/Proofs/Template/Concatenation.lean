import Phrasebook.Engine
import Phrasebook.Proofs.Registry.Loading
import Phrasebook.Proofs.Template.Relocation
import Phrasebook.Proofs.Token.Tiling

namespace Phrasebook

/-- The place of the same stretch when its source stands behind `text`, which holds whole lines. -/
def Location.behind (text : String) (l : Location) : Location :=
  l.shift (text.toList.count '\n') (Text.byteLength text.toList)

/-- The template without the places it stands at. -/
def Template.unplaced (t : Template) : Template := t.relocate fun _ => .ofPosition .start 0

namespace Token

theorem LaidOut.closed {outside : Bool} {before text : List Char} {ts : List Token}
    (h : LaidOut outside before text ts) : Closed ts := by
  induction h with
  | last hgap hplace htext hkind => exact ⟨[], _, rfl, hkind, by simp⟩
  | cons hgap hplace hspells hkind hmore ih =>
    obtain ⟨front, last, rfl, hlast, hfront⟩ := ih
    exact ⟨_ :: front, last, rfl, hlast, List.forall_mem_cons.2 ⟨hkind, hfront⟩⟩

theorem closed_of_ofSource {source : String} {ts : List Token} (h : ofSource source = .ok ts) :
    Closed ts := (scan_laidOut [] h).closed

/-- The tokens of the first source up to its end are followed by those of the second, which stand
behind it. -/
theorem ofSource_append {first second : String} {ts us : List Token}
    (hfirst : first = "" ∨ ∃ front, first = front ++ "\n") (hts : ofSource first = .ok ts)
    (hus : ofSource second = .ok us) :
    ∃ lines last, ts = lines ++ [last] ∧ (lines ≠ [] → EndLine lines) ∧
      ofSource (first ++ second) = .ok (lines ++ us.map (.relocate (.behind first))) := by
  unfold ofSource at hts hus ⊢
  rw [String.toList_append]
  rcases hfirst with rfl | ⟨front, rfl⟩
  · have hend : scan .between .start "".toList = .ok [.endAt .start] := by simp [scan]
    obtain rfl := Except.ok.inj (hend.symm.trans hts)
    have hnowhere : relocate (.behind "") = id := rfl
    refine ⟨[], _, rfl, fun hne => absurd rfl hne, ?_⟩
    rw [hnowhere, List.map_id]
    exact hus
  · have hchars : (front ++ "\n").toList = front.toList ++ ['\n'] := String.toList_append
    rw [hchars] at hts ⊢
    obtain ⟨lines, rfl, hlines, happend⟩ := scan_append hts
    refine ⟨lines, _, rfl, fun _ => hlines, ?_⟩
    have hplace : Position.start.after (front.toList ++ ['\n']) = _ :=
      Position.after_start_line front.toList
    rw [List.append_assoc, List.singleton_append, happend, hplace, scan_shift _ _ hus]
    unfold Location.behind
    rw [hchars]
    rfl

end Token

theorem Template.unplaced_relocate (f : Location → Location) (t : Template) :
    (t.relocate f).unplaced = t.unplaced := relocate_relocate f _ t

/-- Whole lines may be followed by a source, whose templates then stand behind theirs. -/
theorem SourceFile.parse_join {first second : String} {file file' : SourceFile}
    (hfirst : first = "" ∨ ∃ front, first = front ++ "\n") (h : parse first = .ok file)
    (h' : parse second = .ok file') : parse (first ++ second) =
      .ok ⟨file.templates ++ file'.templates.map (.relocate (.behind first)), none⟩ := by
  unfold parse at h h' ⊢
  obtain ⟨ts, hts, h⟩ := bind_eq_ok.1 h
  obtain ⟨us, hus, h'⟩ := bind_eq_ok.1 h'
  obtain ⟨templates, hread, h⟩ := bind_eq_ok.1 h
  obtain ⟨templates', hread', h'⟩ := bind_eq_ok.1 h'
  cases h
  cases h'
  obtain ⟨lines, last, rfl, hlines, happend⟩ := Token.ofSource_append hfirst hts hus
  have hall := Grammar.readAll_append hlines (Token.closed_of_ofSource hts) hread
    (Grammar.readAll_relocate (f := .behind first) hread')
  exact bind_eq_ok.2 ⟨_, happend, bind_eq_ok.2 ⟨_, hall, rfl⟩⟩

theorem Engine.ofSources_of_parse {first second : String} {file file' : SourceFile}
    (h : SourceFile.parse first = .ok file) (h' : SourceFile.parse second = .ok file')
    (seed : Option Nat) : Engine.ofSources [first, second] seed =
      (do
        let registry ← Registry.ofTemplates .reject (file.templates ++ file'.templates)
        return ⟨registry, seed⟩) := by
  have hfiles : [first, second].mapM SourceFile.parse = .ok [file, file'] := by
    rw [List.mapM_cons, List.mapM_cons, List.mapM_nil, h, h']
    rfl
  have hall : [file, file'].flatMap SourceFile.templates = file.templates ++ file'.templates := by
    simp
  rw [ofSources, hfiles, ← hall]
  rfl

/-- If two sources are read, so are both in one text when the first is empty or ends with a line
feed. The text holds the templates of both, those of the second so many lines and bytes further on.
So both ways of loading fail for the same name or give the same templates, but for their places. -/
theorem SourceFile.parse_append {first second : String} {file file' : SourceFile}
    (hfirst : first = "" ∨ ∃ front, first = front ++ "\n") (h : parse first = .ok file)
    (h' : parse second = .ok file') :
    parse (first ++ second) =
      .ok ⟨file.templates ++ file'.templates.map (.relocate (.behind first)), none⟩ ∧
    ∀ seed,
      (∃ name a b a' b', Registry.ofSource (first ++ second) = .error (.duplicate name a b) ∧
        Engine.ofSources [first, second] seed = .error (.duplicate name a' b')) ∨
      ∃ r e, Registry.ofSource (first ++ second) = .ok r ∧
        Engine.ofSources [first, second] seed = .ok e ∧ r.names = e.names ∧
        r.templates.map Template.unplaced = e.registry.templates.map Template.unplaced := by
  have hjoined := parse_join hfirst h h'
  refine ⟨hjoined, fun seed => ?_⟩
  rw [Registry.ofSource_of_parse hjoined, Engine.ofSources_of_parse h h']
  have hnames : (file.templates ++ file'.templates.map (Template.relocate (.behind first))).map
      Template.name = (file.templates ++ file'.templates).map Template.name := by
    simp [Function.comp_def]
  rcases Registry.ofTemplates_reject_alike hnames with
    ⟨name, a, b, a', b', hone, hboth⟩ | ⟨r, s, hone, hboth, hr, hs⟩
  · rw [hone, hboth]
    exact .inl ⟨name, a, b, a', b', rfl, rfl⟩
  · rw [hone, hboth]
    refine .inr ⟨r, ⟨s, seed⟩, rfl, rfl, ?_, ?_⟩
    · rw [Engine.names, ← r.map_name_templates, ← s.map_name_templates, hr, hs, hnames]
    · simp [hr, hs, Template.unplaced_relocate]

/-- A comment between two templates, the second of which has no line feed at its end. -/
theorem SourceFile.parse_append_comment :
    let first := "# A(p)\n- \x7bp\x7d\n> é\n"
    let second := "# B\n- b"
    let a : Template :=
      ⟨"A", ["p"], .choice [⟨[.expression "\x7bp\x7d"], ⟨2, 1, 7, 1, none⟩⟩], ⟨1, 1, 0, 1, none⟩⟩
    let b : Template := ⟨"B", [], .choice [⟨[.text "b"], ⟨2, 1, 4, 1, none⟩⟩], ⟨1, 1, 0, 1, none⟩⟩
    let b' : Template :=
      ⟨"B", [], .choice [⟨[.text "b"], ⟨5, 1, 22, 1, none⟩⟩], ⟨4, 1, 18, 1, none⟩⟩
    parse first = .ok ⟨[a], none⟩ ∧ parse second = .ok ⟨[b], none⟩ ∧
      parse (first ++ second) = .ok ⟨[a, b'], none⟩ := by
  intro first second a b b'
  have hfirst : parse first = .ok ⟨[a], none⟩ := by decide +kernel
  have hsecond : parse second = .ok ⟨[b], none⟩ := by decide +kernel
  have hends : first = "" ∨ ∃ front, first = front ++ "\n" :=
    .inr ⟨"# A(p)\n- \x7bp\x7d\n> é", by decide +kernel⟩
  have hwhole := (parse_append hends hfirst hsecond).1
  have hb : [a] ++ [b].map (Template.relocate (.behind first)) = [a, b'] := by decide +kernel
  refine ⟨hfirst, hsecond, ?_⟩
  rw [hwhole, ← hb]

end Phrasebook
