import PlantGrammar.Proofs.CommandLine.Markup
import PlantGrammar.Proofs.Scene.UserRules

/-! # Rules offered to a scene

A refused rule leaves a scene as it is, and a notice goes to the console that quotes the rule inside
markup. The quoted text is not escaped. Where it has closing tags of its own the console may be unable
to read the notice, and then there is no answer.
-/
namespace PlantGrammar
open CommandLine

namespace Text
variable {quote : Char} {cs : List Char}

theorem exists_digit_of_mem_toDigits (n : ℕ) :
    ∀ c ∈ Nat.toDigits 16 n, ∃ d < 16, c = Nat.digitChar d := by
  induction n using Nat.strongRecOn with
  | ind n ih =>
    rw [Nat.toDigits_eq_if (by decide)]
    split
    · intro c hc
      exact ⟨n, by assumption, List.mem_singleton.mp hc⟩
    · intro c hc
      rw [List.mem_append, List.mem_singleton] at hc
      rcases hc with hc | hc
      · exact ih _ (by omega) c hc
      · exact ⟨_, Nat.mod_lt _ (by decide), hc⟩

theorem exists_digit_of_mem_hexadecimal {c : Char} {width n : ℕ} (h : c ∈ hexadecimal width n) :
    ∃ d < 16, c = Nat.digitChar d := by
  rcases List.mem_append.mp h with h | h
  · exact ⟨0, by decide, List.eq_of_mem_replicate h⟩
  · exact exists_digit_of_mem_toDigits n c h

/-- No bracket and no slash is a hexadecimal digit. -/
theorem not_mem_hexadecimal (width n : ℕ) :
    '[' ∉ hexadecimal width n ∧ '/' ∉ hexadecimal width n := by
  have hdigit : ∀ d < 16, Nat.digitChar d ≠ '[' ∧ Nat.digitChar d ≠ '/' := by decide
  constructor
  · intro h
    obtain ⟨d, hd, hc⟩ := exists_digit_of_mem_hexadecimal h
    exact (hdigit d hd).1 hc.symm
  · intro h
    obtain ⟨d, hd, hc⟩ := exists_digit_of_mem_hexadecimal h
    exact (hdigit d hd).2 hc.symm

/-- A character stays, or what stands for it has neither brackets nor slashes. -/
theorem escapeChar_cases (hquote : quote ≠ '[' ∧ quote ≠ '/') (c : Char) :
    escapeChar quote c = [c] ∨
      escapeChar quote c ≠ [] ∧ '[' ∉ escapeChar quote c ∧ '/' ∉ escapeChar quote c := by
  have hhex := fun width => not_mem_hexadecimal width c.toNat
  unfold escapeChar
  grind

theorem noneClosing_flatMap (hquote : quote ≠ '[' ∧ quote ≠ '/') (h : NoneClosing cs) :
    NoneClosing (cs.flatMap (escapeChar quote)) := by
  have hcases := escapeChar_cases hquote
  have hnonempty : [] ∉ cs.map (escapeChar quote) := by
    simp only [List.mem_map, not_exists, not_and]
    grind
  unfold NoneClosing
  rw [List.flatMap_def, List.isChain_flatten hnonempty, List.isChain_map]
  constructor
  · intro l hl
    obtain ⟨c, -, rfl⟩ := List.mem_map.mp hl
    rcases hcases c with hc | ⟨-, hbracket, -⟩
    · rw [hc]
      exact List.isChain_singleton c
    · exact noneClosing_of_not_mem hbracket
  -- A bracket at the end of one piece is the character itself, and so is a slash at the front of the next.
  · refine h.imp fun c d hcd x hx y hy => ?_
    have hx := List.mem_of_mem_getLast? hx
    have hy := List.mem_of_mem_head? hy
    rintro ⟨rfl, rfl⟩
    rcases hcases c with hc | ⟨-, hc, -⟩
    · rcases hcases d with hd | ⟨-, -, hd⟩
      · grind
      · exact hd hy
    · exact hc hx

theorem quoteFor_cases (cs : List Char) : quoteFor cs = '"' ∨ quoteFor cs = '\'' := by
  unfold quoteFor
  split
  · exact .inl rfl
  · exact .inr rfl

theorem quoteFor_ne (cs : List Char) : quoteFor cs ≠ '[' ∧ quoteFor cs ≠ '/' := by
  rcases quoteFor_cases cs with h | h
  · rw [h]
    decide
  · rw [h]
    decide

theorem head?_quoted (text : String) : (quoted text).toList.head? = some (quoteFor text.toList) := by
  simp [quoted]

theorem noneClosing_quoted {text : String} (h : NoneClosing text.toList) :
    NoneClosing (quoted text).toList := by
  have hquote := quoteFor_ne text.toList
  have hfront : NoneClosing (quoteFor text.toList ::
      text.toList.flatMap (escapeChar (quoteFor text.toList))) :=
    List.isChain_cons.mpr ⟨fun _ _ hc => hquote.1 hc.1, noneClosing_flatMap hquote h⟩
  unfold quoted
  rw [String.toList_ofList]
  exact noneClosing_append hfront (List.isChain_singleton _) (by simp [hquote.2])

end Text

/-- The style in which a refusal is told. -/
def Notice.refusalStyle : List Char := "yellow".toList

open Notice
variable {canonical : List Char → List Char} {key body : String}

theorem exists_refusal_eq (key body : String) :
    ∃ front, (refusal key body).toList = front ++ ['.'] := by
  have hlast : ": invalid key or body.".toList = ": invalid key or body".toList ++ ['.'] := by decide
  unfold refusal
  rw [String.toList_append, hlast, ← List.append_assoc]
  exact ⟨_, rfl⟩

theorem tags_ignored (key body : String) : tags (ignored key body).text =
    .opening refusalStyle :: tags (refusal key body) ++ [.closing refusalStyle] := by
  obtain ⟨front, hfront⟩ := exists_refusal_eq key body
  have htext : (ignored key body).text.toList =
      "[yellow]".toList ++ (front ++ '.' :: "[/yellow]".toList) := by
    calc (ignored key body).text.toList
        = ("[yellow]" ++ refusal key body ++ "[/yellow]").toList := rfl
      _ = "[yellow]".toList ++ (refusal key body).toList ++ "[/yellow]".toList := by
          rw [String.toList_append, String.toList_append]
      _ = "[yellow]".toList ++ (front ++ '.' :: "[/yellow]".toList) := by
          rw [hfront, List.append_assoc, List.append_assoc, List.singleton_append]
  have hopening (cs : List Char) :
      tagsFrom 0 ("[yellow]".toList ++ cs) = refusalStyle :: tagsFrom 0 cs := rfl
  have hclosing : tagsFrom 0 "[/yellow]".toList = ['/' :: refusalStyle] := rfl
  have hstop : tagsFrom 0 (front ++ ['.']) = tagsFrom 0 front := by
    rw [tagsFrom_append_stop (by decide)]
    exact List.append_nil _
  unfold tags
  rw [htext, hopening, tagsFrom_append_stop (by decide), hclosing, hfront, hstop, List.map_cons,
    List.map_append]
  rfl

/-- A notice of a refusal can be read exactly if the text between its two tags leaves the first open. -/
theorem readMarkup_ignored : readMarkup canonical (ignored key body).text = .ok () ↔
    KeepsOpen canonical refusalStyle (refusal key body) :=
  readMarkup_enclosed (by decide) (tags_ignored key body)

theorem noneClosing_refusal (hkey : NoneClosing key.toList) (hbody : NoneClosing body.toList) :
    NoneClosing (refusal key body).toList := by
  have hhead (text : String) : '/' ∉ (Text.quoted text).toList.head? := by
    simp [Text.head?_quoted, (Text.quoteFor_ne text.toList).2]
  unfold refusal
  simp only [String.toList_append]
  refine noneClosing_append (noneClosing_append (noneClosing_append (noneClosing_append
    ?_ (Text.noneClosing_quoted hkey) (hhead key)) ?_ ?_)
    (Text.noneClosing_quoted hbody) (hhead body)) ?_ ?_
  all_goals decide

/-- The form of a rule that a user may add. -/
def UserForm (key body : String) : Prop :=
  (∃ c, isLetter c = true ∧ key = String.singleton c) ∧ body ≠ "" ∧
    ∀ c ∈ body.toList, isBodySymbol c = true

namespace Scene
variable {s : Scene}

theorem offerRule_of_userForm (h : UserForm key body) :
    offerRule canonical key body s = .ok true { s with rules := s.rules.insert key body } := by
  have hadd : s.addRule key body = ({ s with rules := s.rules.insert key body }, none) :=
    if_pos (isUserRule_iff.mpr h)
  rw [offerRule, hadd]

theorem addRule_of_not_userForm (h : ¬ UserForm key body) :
    s.addRule key body = (s, some (.ignored key body)) :=
  if_neg fun hrule => h (isUserRule_iff.mp hrule)

theorem offerRule_of_read (h : ¬ UserForm key body)
    (hread : readMarkup canonical (ignored key body).text = .ok ()) :
    offerRule canonical key body s = .ok false s := by
  simp only [offerRule, addRule_of_not_userForm h, hread]

theorem offerRule_of_unopened (h : ¬ UserForm key body) {unopened : Unopened}
    (hread : readMarkup canonical (ignored key body).text = .error unopened) :
    offerRule canonical key body s = .error unopened s := by
  simp only [offerRule, addRule_of_not_userForm h, hread]

/-- A rule of the form that a user may add is taken, and nothing else changes. Any other rule changes
nothing at all. It is refused if the text of the notice about it leaves the tag around it open, for
which it is enough that neither key nor body has a bracket with a slash behind it. Otherwise there is
no answer. -/
theorem offerRule_takes_or_refuses (canonical : List Char → List Char) (s : Scene) (key body : String) :
    (UserForm key body →
      offerRule canonical key body s = .ok true { s with rules := s.rules.insert key body } ∧
      (s.rules.insert key body).get? key = some body ∧
      ∀ other, other ≠ key → (s.rules.insert key body).get? other = s.rules.get? other) ∧
    (¬ UserForm key body →
      (KeepsOpen canonical refusalStyle (refusal key body) →
        offerRule canonical key body s = .ok false s) ∧
      (¬ KeepsOpen canonical refusalStyle (refusal key body) →
        ∃ unopened, offerRule canonical key body s = .error unopened s) ∧
      (NoneClosing key.toList → NoneClosing body.toList →
        offerRule canonical key body s = .ok false s)) := by
  have hrefused (h : ¬ UserForm key body)
      (hopen : KeepsOpen canonical refusalStyle (refusal key body)) :
      offerRule canonical key body s = .ok false s :=
    offerRule_of_read h (readMarkup_ignored.mpr hopen)
  constructor
  · intro h
    refine ⟨offerRule_of_userForm h, ?_, fun other hother => ?_⟩
    · rw [OrderedMap.get?_insert, if_pos rfl]
    · rw [OrderedMap.get?_insert, if_neg (Ne.symm hother)]
  · intro h
    refine ⟨hrefused h, fun hclosed => ?_, fun hkey hbody => ?_⟩
    · cases hread : readMarkup canonical (ignored key body).text with
      | ok u => exact absurd (readMarkup_ignored.mp hread) hclosed
      | error unopened => exact ⟨unopened, offerRule_of_unopened h hread⟩
    · exact hrefused h (keepsOpen_of_noneClosing (noneClosing_refusal hkey hbody))

/-- Taken, refused for its brackets, whose tag only opens, and left without an answer. -/
theorem offerRule_takes_or_refuses_three :
    (UserForm "A" "F+L" ∧ offerRule id "A" "F+L" default =
      .ok true { (default : Scene) with rules := (default : Scene).rules.insert "A" "F+L" }) ∧
    (¬ UserForm "[" "[f]\n/" ∧ NoneClosing "[".toList ∧ NoneClosing "[f]\n/".toList ∧
      KeepsOpen id refusalStyle (refusal "[" "[f]\n/") ∧
      offerRule id "[" "[f]\n/" default = .ok false default) ∧
    (¬ UserForm "A" "F[/F]L" ∧ ¬ KeepsOpen id refusalStyle (refusal "A" "F[/F]L") ∧
      ∃ unopened, offerRule id "A" "F[/F]L" default = .error unopened default) := by
  have htaken : UserForm "A" "F+L" := isUserRule_iff.mp (by decide)
  have hopening : ¬ UserForm "[" "[f]\n/" := fun h => absurd (isUserRule_iff.mpr h) (by decide)
  have hclosing : ¬ UserForm "A" "F[/F]L" := fun h => absurd (isUserRule_iff.mpr h) (by decide)
  have hkeeps : KeepsOpen id refusalStyle (refusal "[" "[f]\n/") :=
    keepsOpen_of_noneClosing (by decide)
  have hbreaks : ¬ KeepsOpen id refusalStyle (refusal "A" "F[/F]L") := fun h =>
    absurd (readMarkup_ignored.mpr h) (by decide)
  refine ⟨⟨htaken, ?_⟩, ⟨hopening, by decide, by decide, hkeeps, ?_⟩, ⟨hclosing, hbreaks, ?_⟩⟩
  · exact ((offerRule_takes_or_refuses id default "A" "F+L").1 htaken).1
  · exact ((offerRule_takes_or_refuses id default "[" "[f]\n/").2 hopening).2.2 (by decide) (by decide)
  · exact ((offerRule_takes_or_refuses id default "A" "F[/F]L").2 hclosing).2.1 hbreaks

/-- A new scene has no answer to a rule that is not of the right form. -/
theorem offerRule_breaks_on_closing_tag : ∃ settings scene loaded, new settings = .ok (scene, loaded) ∧
    scene.Reachable ∧ ¬ UserForm "A" "F[/F]L" ∧
    offerRule (List.map Char.toLower) "A" "F[/F]L" scene = .error ⟨['F']⟩ scene := by
  have hform : ¬ UserForm "A" "F[/F]L" := fun h => absurd (isUserRule_iff.mpr h) (by decide)
  have hread : readMarkup (List.map Char.toLower) (ignored "A" "F[/F]L").text = .error ⟨['F']⟩ := by
    decide
  have hoffer (s : Scene) :
      offerRule (List.map Char.toLower) "A" "F[/F]L" s = .error ⟨['F']⟩ s :=
    offerRule_of_unopened hform hread
  obtain ⟨scene, loaded, hnew⟩ : ∃ scene loaded,
      new ⟨42, 300, 0, 10, 0, "__data__", 0, -0.2, -0.1, -0.2, 10, 0.8, 6⟩ = .ok (scene, loaded) :=
    ⟨_, _, rfl⟩
  exact ⟨_, scene, loaded, hnew, ⟨_, scene, loaded, [], hnew, rfl⟩, hform, hoffer scene⟩

end Scene
end PlantGrammar
