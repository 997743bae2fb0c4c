import Mathlib.Data.List.Chain
import Mathlib.Data.List.TakeWhile
import PlantGrammar.CommandLine.Markup

/-! # Reading markup

What a console makes of the markup in a log line. A tag opens a style or closes the nearest open one of
its name, and a tag that has nothing to close cannot be read. Escaped text has no tags.
-/
namespace PlantGrammar.CommandLine
variable {cs u w t : List Char} {slashes : ℕ}

theorem tagsFrom_cons {c : Char} (hslash : c ≠ '\\') (hbracket : c ≠ '[') :
    tagsFrom slashes (c :: cs) = tagsFrom 0 cs := by
  rw [tagsFrom]
  · exact hslash
  · exact hbracket

variable {canonical : List Char → List Char} {opened : List (List Char)} {name : List Char} {ts : List Tag}

theorem turnTag_closing (hname : name ≠ []) : turnTag canonical opened (.closing name) =
    if canonical name ∈ opened then .ok (opened.erase (canonical name)) else .error ⟨name⟩ := by
  cases name with
  | nil => exact absurd rfl hname
  | cons c cs => rfl

/-- Inside a style, a text can be read and leaves the style open. -/
def KeepsOpen (canonical : List Char → List Char) (name : List Char) (text : String) : Prop :=
  ∃ opened, readTags canonical [canonical name] (tags text) = .ok opened ∧ canonical name ∈ opened

/-- A text in a style can be read exactly if it leaves the tag around it to its end. -/
theorem readMarkup_enclosed {text inner : String} (hname : name ≠ [])
    (htags : tags text = .opening name :: tags inner ++ [.closing name]) :
    readMarkup canonical text = .ok () ↔ KeepsOpen canonical name inner := by
  have hread : readTags canonical [] (tags text) =
      readTags canonical [canonical name] (tags inner) >>= fun opened =>
        turnTag canonical opened (.closing name) := by
    have happend : List.foldlM (turnTag canonical) [canonical name] (tags inner ++ [.closing name]) = _ :=
      List.foldlM_append
    simp only [List.foldlM_cons, List.foldlM_nil, bind_pure] at happend
    rw [htags]
    exact happend
  unfold readMarkup KeepsOpen
  rw [hread]
  cases readTags canonical [canonical name] (tags inner) with
  | error e => simp [bind, Except.bind]
  | ok opened =>
    change (fun _ => ()) <$> turnTag canonical opened (.closing name) = .ok () ↔ _
    rw [turnTag_closing hname]
    by_cases hmem : canonical name ∈ opened
    · simp [hmem]
    · simp [hmem]

/-- Tags that all open keep what is open. -/
theorem readTags_of_opening (h : ∀ t ∈ ts, ∃ name, t = .opening name) (opened : List (List Char)) :
    ∃ added, readTags canonical opened ts = .ok (added ++ opened) := by
  induction ts generalizing opened with
  | nil => exact ⟨[], rfl⟩
  | cons t rest ih =>
    obtain ⟨⟨name, rfl⟩, hrest⟩ := List.forall_mem_cons.mp h
    obtain ⟨added, hadded⟩ := ih hrest (canonical name :: opened)
    refine ⟨added ++ [canonical name], ?_⟩
    rw [List.append_assoc]
    exact hadded

/-- No bracket has a slash right behind it. -/
def NoneClosing (cs : List Char) : Prop := cs.IsChain fun c d => ¬ (c = '[' ∧ d = '/')

instance : Decidable (NoneClosing cs) := inferInstanceAs (Decidable (List.IsChain _ cs))

theorem noneClosing_append (hu : NoneClosing u) (hw : NoneClosing w) (hhead : '/' ∉ w.head?) :
    NoneClosing (u ++ w) :=
  List.isChain_append.mpr ⟨hu, hw, fun _ _ _ hd hclosing => hhead (hclosing.2 ▸ hd)⟩

theorem noneClosing_of_not_mem (h : '[' ∉ cs) : NoneClosing cs := by
  induction cs with
  | nil => exact .nil
  | cons c cs ih =>
    rw [List.mem_cons, not_or] at h
    exact List.isChain_cons.mpr ⟨fun _ _ hc => h.1 hc.1.symm, ih h.2⟩

theorem infix_of_mem_tagsFrom (h : t ∈ tagsFrom slashes cs) : '[' :: t <:+: cs := by
  fun_induction tagsFrom slashes cs with
  | case1 => cases h
  | case2 slashes cs ih => exact (ih h).trans (List.suffix_cons _ _).isInfix
  | case3 slashes cs hopens ih =>
    rcases List.mem_cons.mp h with rfl | h
    · exact ((List.prefix_cons_inj '[').mpr (List.takeWhile_prefix _)).isInfix
    · exact (ih h).trans (List.suffix_cons _ _).isInfix
  | case4 slashes cs hopens ih => exact (ih h).trans (List.suffix_cons _ _).isInfix
  | case5 slashes c cs _ _ ih => exact (ih h).trans (List.suffix_cons _ _).isInfix

theorem opening_of_noneClosing {text : String} (h : NoneClosing text.toList) (tag : Tag)
    (htag : tag ∈ tags text) : ∃ name, tag = .opening name := by
  obtain ⟨t, ht, rfl⟩ := List.mem_map.mp htag
  unfold Tag.ofText
  split
  · rename_i name hname
    obtain ⟨rest, hrest⟩ := hname ▸ List.takeWhile_prefix (l := t) (fun c => decide (c ≠ '='))
    have hchain := h.infix (infix_of_mem_tagsFrom ht)
    rw [← hrest] at hchain
    exact absurd ⟨rfl, rfl⟩ (List.isChain_cons_cons.mp hchain).1
  · exact ⟨_, rfl⟩

/-- Text that closes nothing leaves the style around it open. -/
theorem keepsOpen_of_noneClosing {text : String} (h : NoneClosing text.toList) :
    KeepsOpen canonical name text := by
  have hopening := opening_of_noneClosing h
  obtain ⟨added, hadded⟩ : ∃ added, readTags canonical [canonical name] (tags text) = .ok (added ++ _) :=
    readTags_of_opening hopening _
  exact ⟨_, hadded, List.mem_append_right _ (List.mem_singleton_self _)⟩

/-- The next bracket, of either kind. -/
def nextBracket? (cs : List Char) : Option Char := (cs.dropWhile fun c => c ≠ '[' && c ≠ ']').head?

theorem nextBracket?_cons (c : Char) (cs : List Char) :
    nextBracket? (c :: cs) = if c = '[' ∨ c = ']' then some c else nextBracket? cs := by
  unfold nextBracket?
  rw [List.dropWhile_cons]
  grind

theorem nextBracket?_append (u w : List Char) :
    nextBracket? (u ++ w) = (nextBracket? u).or (nextBracket? w) := by
  induction u with
  | nil => rfl
  | cons c u ih =>
    rw [List.cons_append, nextBracket?_cons, nextBracket?_cons, ih]
    split
    · rfl
    · rfl

/-- Whether a tag can start with this character. -/
def startsTag (c : Char) : Bool := ('a' ≤ c && c ≤ 'z') || c = '#' || c = '/' || c = '@'

theorem opensTag_cons (c : Char) (cs : List Char) :
    opensTag (c :: cs) = (startsTag c && nextBracket? cs = some ']') := rfl

/-- No tag goes on behind a full stop, unless the next bracket there is one that closes. -/
theorem opensTag_append_stop (hw : nextBracket? w ≠ some ']') (u : List Char) :
    opensTag (u ++ '.' :: w) = opensTag u := by
  cases u with
  | nil => rfl
  | cons c u =>
    have hstop : nextBracket? ('.' :: w) = nextBracket? w := rfl
    rw [List.cons_append, opensTag_cons, opensTag_cons, nextBracket?_append, hstop]
    cases nextBracket? u with
    | none => simp [hw]
    | some b => rfl

theorem mem_of_opensTag (h : opensTag cs = true) : ']' ∈ cs := by
  cases cs with
  | nil => cases h
  | cons c cs =>
    rw [opensTag_cons, Bool.and_eq_true, decide_eq_true_iff] at h
    exact .tail _ ((List.dropWhile_suffix _).mem (List.mem_of_mem_head? h.2))

theorem takeWhile_append_of_mem (h : ']' ∈ u) (w : List Char) :
    (u ++ w).takeWhile (· ≠ ']') = u.takeWhile (· ≠ ']') := by
  rw [List.takeWhile_append, if_neg]
  intro hlength
  have hall := (List.takeWhile_prefix _).eq_of_length hlength
  exact absurd (List.takeWhile_eq_self_iff.mp hall ']' h) (by decide)

theorem tagsFrom_append_stop (hw : nextBracket? w ≠ some ']') (slashes : ℕ) (u : List Char) :
    tagsFrom slashes (u ++ '.' :: w) = tagsFrom slashes u ++ tagsFrom 0 w := by
  fun_induction tagsFrom slashes u with
  | case1 => rfl
  | case2 slashes cs ih => exact ih
  | case3 slashes cs hopens ih =>
    have hclosed := mem_of_opensTag (Bool.and_eq_true _ _ ▸ hopens).1
    rw [List.cons_append, tagsFrom, opensTag_append_stop hw, if_pos hopens, ih,
      takeWhile_append_of_mem hclosed, List.cons_append]
  | case4 slashes cs hopens ih =>
    rw [List.cons_append, tagsFrom, opensTag_append_stop hw, if_neg hopens, ih]
  | case5 slashes c cs hslash hbracket ih =>
    rw [List.cons_append, tagsFrom_cons hslash hbracket]
    exact ih

theorem nextBracket?_replicate (count : ℕ) (cs : List Char) :
    nextBracket? (List.replicate count '\\' ++ cs) = nextBracket? cs := by
  induction count with
  | zero => rfl
  | succ count ih => exact ih

theorem nextBracket?_escapeTags (slashes : ℕ) (cs : List Char) :
    nextBracket? (escapeTags slashes cs) = nextBracket? cs := by
  fun_induction escapeTags slashes cs with
  | case1 slashes => exact (List.append_nil _ ▸ nextBracket?_replicate slashes [] :)
  | case2 slashes cs ih => exact ih
  | case3 slashes cs ih => exact nextBracket?_replicate _ _
  | case4 slashes c cs hslash hbracket ih =>
    rw [nextBracket?_replicate, nextBracket?_cons, nextBracket?_cons, ih]

/-- Escaping brings about no tag that was not there, and none directly behind pending backslashes. -/
theorem opensTag_escapeTags (slashes : ℕ) (cs : List Char) :
    opensTag (escapeTags slashes cs) = (slashes = 0 && opensTag cs) := by
  fun_induction escapeTags slashes cs with
  | case1 slashes =>
    cases slashes with
    | zero => rfl
    | succ slashes => rfl
  | case2 slashes cs ih =>
    have hslash : opensTag ('\\' :: cs) = false := rfl
    simp [ih, hslash]
  | case3 slashes cs ih =>
    have hbracket (count : ℕ) (w : List Char) :
        opensTag (List.replicate count '\\' ++ '[' :: w) = false := by
      cases count with
      | zero => rfl
      | succ count => rfl
    rw [hbracket, show opensTag ('[' :: cs) = false from rfl, Bool.and_false]
  | case4 slashes c cs hslash hbracket ih =>
    cases slashes with
    | zero =>
      rw [List.replicate_zero, List.nil_append, opensTag_cons, opensTag_cons, nextBracket?_escapeTags]
      rfl
    | succ slashes => rfl

theorem tagsFrom_replicate (slashes count : ℕ) (cs : List Char) :
    tagsFrom slashes (List.replicate count '\\' ++ cs) = tagsFrom (slashes + count) cs := by
  induction count generalizing slashes with
  | zero => rfl
  | succ count ih =>
    rw [List.replicate_succ, List.cons_append, tagsFrom, ih, Nat.add_right_comm, Nat.add_assoc]

/-- Escaped text has no tags. -/
theorem tagsFrom_escapeTags (slashes : ℕ) (cs : List Char) :
    tagsFrom 0 (escapeTags slashes cs) = [] := by
  fun_induction escapeTags slashes cs with
  | case1 slashes => exact (List.append_nil _ ▸ tagsFrom_replicate 0 slashes [] :)
  | case2 slashes cs ih => exact ih
  | case3 slashes cs ih =>
    rw [tagsFrom_replicate, tagsFrom, if_neg]
    · exact ih
    · intro hopens
      rw [opensTag_escapeTags, Bool.and_eq_true, Bool.and_eq_true, decide_eq_true_iff,
        decide_eq_true_iff] at hopens
      obtain ⟨⟨-, htag⟩, heven⟩ := hopens
      rw [if_pos htag] at heven
      omega
  | case4 slashes c cs hslash hbracket ih =>
    rw [tagsFrom_replicate, tagsFrom_cons hslash hbracket]
    exact ih

/-- Escaped, any text leaves the style around it open. -/
theorem keepsOpen_escapeMarkup (text : String) : KeepsOpen canonical name (escapeMarkup text) := by
  have hnone : tags (escapeMarkup text) = [] := by
    rw [tags, escapeMarkup, String.toList_ofList, tagsFrom_escapeTags, List.map_nil]
  exact ⟨[canonical name], by rw [hnone]; rfl, List.mem_singleton_self _⟩

end PlantGrammar.CommandLine
