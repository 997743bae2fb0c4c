import Mathlib.Data.List.TakeWhile
import PlantGrammar.CommandLine
import PlantGrammar.Proofs.Grammar.Iteration
import PlantGrammar.Proofs.Mesh.Arrays
import PlantGrammar.Proofs.OrderedMap

/-! # Expanding on the command line

A rule is written as its key, an equals sign and its body. What an expansion prints is told by the
texts of the rules alone: in each iteration every symbol gives way to the body that the last of its
texts gives it, at the same time.
-/
namespace PlantGrammar.CommandLine
variable {texts : List String} {rules : List (String × String)} {text key body : String} {c : Char}

/-- A key that is not empty and has no equals sign, the sign, and any body. -/
def IsRule (text key body : String) : Prop :=
  text = key ++ "=" ++ body ∧ key ≠ "" ∧ '=' ∉ key.toList

instance (text key body : String) : Decidable (IsRule text key body) :=
  inferInstanceAs (Decidable (_ ∧ _))

theorem cutAtEquals_append {key : List Char} (h : '=' ∉ key) (body : List Char) :
    cutAtEquals (key ++ '=' :: body) = (key, some (String.ofList body)) := by
  have hkey : ∀ c ∈ key, decide (c ≠ '=') = true := fun c hc =>
    decide_eq_true fun he => h (he ▸ hc)
  rw [cutAtEquals, List.dropWhile_append_of_pos hkey, List.takeWhile_append_of_pos hkey]
  simp

/-- A cut word is its parts put together again. -/
theorem eq_append_of_cutAtEquals {word key : List Char} {body : String}
    (h : cutAtEquals word = (key, some body)) : word = key ++ '=' :: body.toList ∧ '=' ∉ key := by
  unfold cutAtEquals at h
  split at h
  · cases h
  · rename_i d value hrest
    have hd : d = '=' := by
      have hhead := List.head?_dropWhile_not (fun c => decide (c ≠ '=')) word
      rw [hrest] at hhead
      simpa using hhead
    cases h
    constructor
    · rw [String.toList_ofList, ← hd, ← hrest, hd, List.takeWhile_append_dropWhile]
    · intro hmem
      simpa using List.mem_takeWhile_imp hmem

theorem IsRule.toList_eq (h : IsRule text key body) :
    text.toList = key.toList ++ '=' :: body.toList := by
  rw [h.1]
  simp

theorem readRule_eq_ok_iff : readRule text = .ok (key, body) ↔ IsRule text key body := by
  constructor
  · intro h
    unfold readRule at h
    split at h
    · rename_i cs value hcut
      split at h
      · cases h
      · rename_i hne
        cases h
        obtain ⟨htext, hfree⟩ := eq_append_of_cutAtEquals hcut
        refine ⟨?_, by simpa using hne, by rwa [String.toList_ofList]⟩
        rw [← String.toList_inj, htext]
        simp
    · cases h
  · intro h
    have hne : key.toList.isEmpty = false := by simpa using h.2.1
    rw [readRule, h.toList_eq, cutAtEquals_append h.2.2]
    simp [hne]

theorem readRule_eq_error (h : ∀ key body, ¬ IsRule text key body) :
    readRule text = .error (.ruleText text) := by
  cases hr : readRule text with
  | ok rule => exact absurd (readRule_eq_ok_iff.mp hr) (h rule.1 rule.2)
  | error fault =>
    unfold readRule at hr
    split at hr
    · split at hr
      · cases hr
        rfl
      · cases hr
    · cases hr
      rfl

/-- The body that a text gives to a symbol. Texts with a longer key give it none. -/
def bodyOf? (c : Char) (text : String) : Option (List Char) :=
  match text.toList with
  | d :: '=' :: body => if d = c then some body else none
  | _ => none

/-- Put bodies in the place of all symbols at the same time. The last text that has a body for a symbol
counts, and a symbol that no text has a body for stays. -/
def substituted (texts : List String) (cs : List Char) : List Char :=
  cs.flatMap fun c => (texts.reverse.findSome? (bodyOf? c)).getD [c]

theorem bodyOf?_eq (h : IsRule text key body) (c : Char) :
    bodyOf? c text = if key = String.singleton c then some body.toList else none := by
  have hkey : key = String.singleton c ↔ key.toList = [c] := by
    rw [← String.toList_inj, String.toList_singleton]
  rw [bodyOf?, h.toList_eq, if_congr hkey rfl rfl]
  have hne : key.toList ≠ [] := by simpa using h.2.1
  have hfree := h.2.2
  match hcs : key.toList with
  | [] => exact absurd hcs hne
  | [d] => simp
  | d :: e :: cs =>
    rw [hcs] at hfree
    have he : e ≠ '=' := fun he => hfree (by simp [he])
    simp [he]

theorem findSome?_bodyOf? (h : List.Forall₂ (fun text rule => IsRule text rule.1 rule.2) texts rules)
    (c : Char) : texts.findSome? (bodyOf? c) =
      (rules.find? fun rule => rule.1 = String.singleton c).map fun rule => rule.2.toList := by
  induction h with
  | nil => rfl
  | @cons text rule texts rules hrule _ ih =>
    rw [List.findSome?_cons, bodyOf?_eq hrule, ih]
    by_cases hc : rule.1 = String.singleton c
    · simp [hc]
    · simp [hc]

theorem image_ofList (h : List.Forall₂ (fun text rule => IsRule text rule.1 rule.2) texts rules)
    (c : Char) :
    Rules.image (.ofList rules) c = (texts.reverse.findSome? (bodyOf? c)).getD [c] := by
  rw [findSome?_bodyOf? (List.forall₂_reverse_iff.mpr h), Rules.image, Rules.body?,
    OrderedMap.get?_ofList, lastValue?]
  cases rules.reverse.find? fun rule => rule.1 = String.singleton c with
  | none => rfl
  | some rule => rfl

theorem expansion_eq_ok (h : List.Forall₂ (fun text rule => IsRule text rule.1 rule.2) texts rules)
    (axiomText : String) (n : ℤ) : expansion axiomText rules n =
      .ok (String.ofList ((substituted texts)^[n.toNat] axiomText.toList)) := by
  have hstep : Rules.successor (.ofList rules) = substituted texts :=
    funext fun cs => List.flatMap_congr fun c _ => image_ofList h c
  rw [expansion, Rules.derive_eq_ofList, hstep]
  exact congrArg Except.ok (Strand.text_ofList _)

/-- Characters that the console prints as they are: no tab, no control that it drops, and no colon, with
which the name of an emoji may begin. -/
def isVerbatim (c : Char) : Bool := c ≠ ':' && c ≠ '\t' && !isDropped c

theorem toStringList_split (text : String) (sep : Char) :
    (text.split sep).toStringList = (text.toList.splitOn sep).map String.ofList := by
  rw [← String.toList_split_char]
  simp

theorem mem_of_mem_splitOn {cs piece : List Char} {sep c : Char} (h : piece ∈ cs.splitOn sep)
    (hc : c ∈ piece) : c ∈ cs := by
  obtain ⟨i, hi⟩ := List.mem_iff_getElem?.mp h
  have hpiece : piece ∈ (cs.splitOn sep).intersperse [sep] :=
    List.mem_of_getElem? (List.getElem?_intersperse_two_mul.trans hi)
  have hjoined : [sep].intercalate (cs.splitOn sep) = cs := List.intercalate_splitOn sep
  exact hjoined ▸ List.mem_flatten.mpr ⟨piece, hpiece, hc⟩

theorem expandTabs_of_not_mem (h : '\t' ∉ text.toList) : expandTabs text = text := by
  rw [expandTabs, toStringList_split, List.splitOn_eq_singleton h]
  simp [joinTabbed]

theorem withEmoji_of_not_mem (h : ':' ∉ text.toList) : Text.withEmoji text = text := by
  rw [Text.withEmoji, toStringList_split, List.splitOn_eq_singleton h]
  simp [Text.joinNamed]

theorem printed_of_verbatim (h : ∀ c ∈ text.toList, isVerbatim c = true) :
    printed text = text ++ "\n" := by
  have hcolon : ':' ∉ text.toList := fun hc => absurd (h _ hc) (by decide)
  have hdropped : dropControls text = text := by
    rw [dropControls, List.filter_eq_self.mpr, String.ofList_toList]
    intro c hc
    have hv := h c hc
    simp only [isVerbatim, Bool.and_eq_true] at hv
    exact hv.2
  have hlines : ((text.toList.splitOn '\n').map String.ofList).map expandTabs =
      (text.toList.splitOn '\n').map String.ofList := by
    rw [List.map_map]
    refine List.map_congr_left fun line hline => expandTabs_of_not_mem fun htab => ?_
    rw [String.toList_ofList] at htab
    exact absurd (h _ (mem_of_mem_splitOn hline htab)) (by decide)
  have hjoined : "\n".intercalate ((text.toList.splitOn '\n').map String.ofList) = text := by
    rw [← String.toList_inj, String.toList_intercalate, List.map_map]
    simp [Function.comp_def, List.intercalate_splitOn]
  unfold printed
  rw [withEmoji_of_not_mem hcolon, hdropped, toStringList_split]
  dsimp only
  rw [hlines, hjoined]

theorem mapM_some (rules : List (String × String)) :
    (rules.map some).mapM (fun rule => rule.elim (throw .emptyRule) pure) =
      (.ok rules : Except Fault _) := by
  induction rules with
  | nil => rfl
  | cons rule rules ih =>
    rw [List.map_cons, List.mapM_cons, ih]
    rfl

theorem perform_expand {result : String} {n : ℤ} (h : expansion text rules n = .ok result)
    (around : Surroundings) (settings : Settings) (report : Report) :
    perform around settings (.expand text (rules.map some) (some n)) report =
      .ok () { report with printed := printed result } := by
  have hrun : perform around settings (.expand text (rules.map some) (some n)) =
      modify fun r => { r with printed := printed result } := by
    rw [perform, mapM_some]
    change (ofResult (expansion text rules n) >>= _) = _
    rw [h]
    rfl
  rw [hrun]
  rfl

/-- A text is read as a rule exactly if it is one, which it is in one way at most, and any other text is
refused. With texts that are rules, an expansion of any axiom prints what as many substitutions as there
are iterations leave of it, none if their number is negative. Plain text is printed as it is. -/
theorem expand_prints_substituted (around : Surroundings) (settings : Settings) (texts : List String)
    (axiomText : String) (n : ℤ) (report : Report) :
    (∀ text key body, readRule text = .ok (key, body) ↔ IsRule text key body) ∧
    (∀ text, (∀ key body, ¬ IsRule text key body) → readRule text = .error (.ruleText text)) ∧
    (∀ text key body key' body', IsRule text key body → IsRule text key' body' →
      key = key' ∧ body = body') ∧
    (∀ key body, key ≠ "" → '=' ∉ key.toList → readRule (key ++ "=" ++ body) = .ok (key, body)) ∧
    ((∀ text ∈ texts, ∃ key body, IsRule text key body) → ∃ rules result,
      texts.mapM readRule = .ok rules ∧
      result = String.ofList ((substituted texts)^[n.toNat] axiomText.toList) ∧
      expansion axiomText rules n = .ok result ∧
      perform around settings (.expand axiomText (rules.map some) (some n)) report =
        .ok () { report with printed := printed result } ∧
      ((∀ c ∈ result.toList, isVerbatim c = true) → printed result = result ++ "\n")) := by
  refine ⟨fun _ _ _ => readRule_eq_ok_iff, fun _ => readRule_eq_error, ?_, ?_, fun htexts => ?_⟩
  · intro text key body key' body' h h'
    have hread := (readRule_eq_ok_iff.mpr h).symm.trans (readRule_eq_ok_iff.mpr h')
    simpa using hread
  · exact fun key body hne hfree => readRule_eq_ok_iff.mpr ⟨rfl, hne, hfree⟩
  · obtain ⟨rules, hrules, -⟩ := exists_mapM_eq_ok fun text ht => by
      obtain ⟨key, body, h⟩ := htexts text ht
      exact ⟨(key, body), readRule_eq_ok_iff.mpr h⟩
    have hresult := expansion_eq_ok
      ((forall₂_of_mapM_eq_ok hrules).imp fun _ _ => readRule_eq_ok_iff.mp) axiomText n
    exact ⟨rules, _, hrules, rfl, hresult, perform_expand hresult around settings report,
      printed_of_verbatim⟩

/-- The first text for `A` is overruled, that for `AB` names no symbol, and one body has an equals sign
while another is empty. -/
theorem expand_prints_substituted_last_rule :
    (∀ text ∈ ["A=C", "AB=D", "B=", "A=A=B"], ∃ key body, IsRule text key body) ∧
    ∃ rules report, ["A=C", "AB=D", "B=", "A=A=B"].mapM readRule = .ok rules ∧
      perform .recording default (.expand "AB[" (rules.map some) (some 2)) .empty = .ok () report ∧
      report.printed = "A=B=[\n" := by
  have htexts : ∀ text ∈ ["A=C", "AB=D", "B=", "A=A=B"], ∃ key body, IsRule text key body := by
    simp only [List.forall_mem_cons]
    exact ⟨⟨"A", "C", by decide⟩, ⟨"AB", "D", by decide⟩, ⟨"B", "", by decide⟩,
      ⟨"A", "A=B", by decide⟩, List.forall_mem_nil _⟩
  obtain ⟨-, -, -, -, hprints⟩ :=
    expand_prints_substituted .recording default ["A=C", "AB=D", "B=", "A=A=B"] "AB[" 2 .empty
  obtain ⟨rules, result, hrules, rfl, -, hperform, hplain⟩ := hprints htexts
  refine ⟨htexts, rules, _, hrules, hperform, ?_⟩
  have hresult : String.ofList ((substituted ["A=C", "AB=D", "B=", "A=A=B"])^[Int.toNat 2]
      "AB[".toList) = "A=B=[" := by decide
  rw [hresult] at hplain ⊢
  exact hplain (List.forall_iff_forall_mem.mp (by decide))

end PlantGrammar.CommandLine
