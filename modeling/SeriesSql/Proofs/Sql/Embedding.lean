import SeriesSql.Proofs.Sql.Code
import SeriesSql.Proofs.Sql.Composition
import SeriesSql.Proofs.Sql.Pieces

/-!
# Embedded fragments

Values are bound by position, so a fragment that is put into a larger one keeps its values only if
as many values stand before it as the text before it has placeholders.

There are four groups.

* `Fragment.placed`, the placeholders of a fragment with the values they take.
* `Frame`, what stands around an embedded fragment, and frames inside frames.
* `Embeds`, the frame holds the fragment and hands it its own values.  This follows from what stands
  before the fragment alone (`embeds_around`).
* Code inside code, which stands in the fragment of the whole with its own values.
-/

namespace SeriesSql.Sql

/-! ## Placeholders and their values -/

/-- The positions of the placeholders in `cs`, where `inside` tells whether a literal is open. -/
def placeholderPositions (inside : Bool) : List Char → List Nat
  | [] => []
  | c :: cs =>
    if c = '\'' then (placeholderPositions (!inside) cs).map (· + 1)
    else if c = '?' && !inside then 0 :: (placeholderPositions inside cs).map (· + 1)
    else (placeholderPositions inside cs).map (· + 1)

theorem length_placeholderPositions (inside : Bool) (cs : List Char) :
    (placeholderPositions inside cs).length = countPlaceholders inside cs := by
  fun_induction countPlaceholders inside cs with
  | case1 => rfl
  | case2 inside cs ih => simp [placeholderPositions, ih]
  | case3 inside c cs hquote hmark ih => simp [placeholderPositions, hquote, hmark, ih]
  | case4 inside c cs hquote hmark ih => simp [placeholderPositions, hquote, hmark, ih]

theorem lt_length_of_mem_placeholderPositions {inside : Bool} {cs : List Char} {n : Nat}
    (h : n ∈ placeholderPositions inside cs) : n < cs.length := by
  fun_induction placeholderPositions inside cs generalizing n with
  | case1 => cases h
  | case2 inside cs ih =>
    obtain ⟨m, hm, rfl⟩ := List.mem_map.mp h
    simpa using ih hm
  | case3 inside c cs hquote hmark ih =>
    rcases List.mem_cons.mp h with rfl | h
    · simp
    · obtain ⟨m, hm, rfl⟩ := List.mem_map.mp h
      simpa using ih hm
  | case4 inside c cs hquote hmark ih =>
    obtain ⟨m, hm, rfl⟩ := List.mem_map.mp h
    simpa using ih hm

theorem placeholderPositions_append (inside : Bool) (cs ds : List Char) :
    placeholderPositions inside (cs ++ ds) =
      placeholderPositions inside cs ++
        (placeholderPositions (if IsClosed cs then inside else !inside) ds).map
          (cs.length + ·) := by
  induction cs generalizing inside with
  | nil => simp [placeholderPositions, IsClosed]
  | cons c cs ih =>
    have hshift : (fun n => n + 1) ∘ (cs.length + ·) = ((c :: cs).length + ·) := by
      funext n
      simp only [Function.comp_apply, List.length_cons]
      omega
    by_cases hquote : c = '\''
    · subst hquote
      have hstate : (if IsClosed ('\'' :: cs) then inside else !inside) =
          if IsClosed cs then !inside else !(!inside) := by
        by_cases hcs : IsClosed cs <;> simp [isClosed_quote_cons, hcs]
      simp only [List.cons_append, placeholderPositions, if_true, ih, List.map_append, List.map_map,
        hshift, hstate]
    · have hstate : (if IsClosed (c :: cs) then inside else !inside) =
          if IsClosed cs then inside else !inside := by
        simp only [isClosed_cons_of_ne hquote]
      by_cases hmark : c = '?' && !inside
      · simp only [List.cons_append, placeholderPositions, hquote, if_false, hmark, if_true, ih,
          List.map_append, List.map_map, hshift, hstate]
      · simp only [List.cons_append, placeholderPositions, hquote, if_false, hmark,
          Bool.false_eq_true, ih, List.map_append, List.map_map, hshift, hstate]

namespace Fragment

/-- The placeholders of a fragment by their positions, with the values they take. -/
def placed (f : Fragment) : List (Nat × Value) :=
  (placeholderPositions false f.text.toList).zip f.params

/-- The placeholders among the `length` characters from `start` on, by their positions in this part,
with the values they take. -/
def placedWithin (f : Fragment) (start length : Nat) : List (Nat × Value) :=
  (f.placed.filter fun p => start ≤ p.1 ∧ p.1 < start + length).map fun p => (p.1 - start, p.2)

theorem lt_length_of_mem_placed {f : Fragment} {p : Nat × Value} (h : p ∈ f.placed) :
    p.1 < f.text.length := by
  rw [← String.length_toList]
  exact lt_length_of_mem_placeholderPositions (List.of_mem_zip h).1

/-- In a balanced fragment every value is placed. -/
theorem map_snd_placed {f : Fragment} (h : f.isBalanced = true) :
    f.placed.map Prod.snd = f.params := by
  rw [isBalanced_iff, ← length_placeholderPositions] at h
  exact List.map_snd_zip (Nat.le_of_eq h.symm)

theorem placed_append {f : Fragment} (hf : f.Stable) (g : Fragment) :
    (f ++ g).placed = f.placed ++ g.placed.map fun p => (f.text.length + p.1, p.2) := by
  have hlength : (placeholderPositions false f.text.toList).length = f.params.length := by
    rw [length_placeholderPositions, isBalanced_iff.mp hf.balanced]
  have htext : (f ++ g).text.toList = f.text.toList ++ g.text.toList := String.toList_append
  have hparams : (f ++ g).params = f.params ++ g.params := rfl
  have hclosed : IsClosed f.text.toList := hf.closed
  rw [placed, htext, hparams, placeholderPositions_append, if_pos hclosed, List.zip_append hlength,
    List.zip_map_left, String.length_toList]
  rfl

theorem mk_append (t u : String) (ps qs : List Value) :
    (⟨t, ps⟩ : Fragment) ++ (⟨u, qs⟩ : Fragment) = ⟨t ++ u, ps ++ qs⟩ := rfl

theorem append_assoc (f g h : Fragment) : f ++ g ++ h = f ++ (g ++ h) := by
  cases f
  cases g
  cases h
  simp only [mk_append, String.append_assoc, List.append_assoc]

theorem append_empty (f : Fragment) : f ++ (⟨"", []⟩ : Fragment) = f := by
  cases f
  simp only [mk_append, String.append_empty, List.append_nil]

theorem parenthesize_eq (f : Fragment) :
    f.parenthesize = (⟨"(", []⟩ : Fragment) ++ (f ++ (⟨")", []⟩ : Fragment)) := by
  cases f
  simp only [parenthesize, mk_append, String.append_assoc, List.nil_append, List.append_nil]

theorem stable_mark : Stable ⟨"(", []⟩ := ⟨rfl, by decide⟩

end Fragment

@[simp] theorem Code.fragment_append (first second : Code) :
    (first ++ second).fragment = first.fragment ++ second.fragment := rfl

@[simp] theorem Code.fragment_parens (inner : Code) :
    (Code.parens inner).fragment = inner.fragment.parenthesize := rfl

theorem Code.stable_fragment {code : Code} (h : code.Native) : code.fragment.Stable :=
  ⟨Code.isBalanced_fragment h, Code.even_quotes h⟩

/-! ## Frames -/

/-- What stands before and after an embedded fragment. -/
structure Frame where
  before : Fragment
  after : Fragment

namespace Frame

/-- The fragment in parentheses, with the frame around it. -/
def around (frame : Frame) (f : Fragment) : Fragment :=
  frame.before ++ (f.parenthesize ++ frame.after)

/-- The frame `inner` where `outer` has its fragment. -/
def within (inner outer : Frame) : Frame :=
  ⟨outer.before ++ ((⟨"(", []⟩ : Fragment) ++ inner.before),
    inner.after ++ ((⟨")", []⟩ : Fragment) ++ outer.after)⟩

theorem around_within (inner outer : Frame) (f : Fragment) :
    (inner.within outer).around f = outer.around (inner.around f) := by
  simp only [around, within, Fragment.parenthesize_eq, Fragment.append_assoc]

theorem stable_within {inner outer : Frame} (hinner : inner.before.Stable)
    (houter : outer.before.Stable) : (inner.within outer).before.Stable :=
  houter.append (Fragment.stable_mark.append hinner)

/-! ## Embeddings -/

/-- `whole` is `inner` with the frame around it, and the placeholders of `inner` take its own
values. -/
structure Embeds (frame : Frame) (inner whole : Fragment) : Prop where
  text : whole.text = frame.before.text ++ "(" ++ inner.text ++ ")" ++ frame.after.text
  params : whole.params = frame.before.params ++ inner.params ++ frame.after.params
  closed : IsClosed frame.before.text.toList
  count : countPlaceholders false frame.before.text.toList = frame.before.params.length
  placed : whole.placedWithin (frame.before.text.length + 1) inner.text.length = inner.placed
  values : inner.placed.map Prod.snd = inner.params

theorem placedWithin_around {frame : Frame} {f : Fragment} (hbefore : frame.before.Stable)
    (hf : f.Stable) :
    (frame.around f).placedWithin (frame.before.text.length + 1) f.text.length = f.placed := by
  let rest : Fragment := (⟨")", []⟩ : Fragment) ++ frame.after
  have hplaced : (frame.around f).placed =
      frame.before.placed ++
        (f.placed.map (fun p => (frame.before.text.length + (1 + p.1), p.2)) ++
          rest.placed.map fun p =>
            (frame.before.text.length + (1 + (f.text.length + p.1)), p.2)) := by
    have hopen : (⟨"(", []⟩ : Fragment).placed = [] := rfl
    have hlength : (⟨"(", []⟩ : Fragment).text.length = 1 := rfl
    rw [around, Fragment.parenthesize_eq, Fragment.append_assoc, Fragment.append_assoc,
      Fragment.placed_append hbefore, Fragment.placed_append Fragment.stable_mark,
      Fragment.placed_append hf, hopen, hlength]
    simp only [List.nil_append, List.map_append, List.map_map]
    rfl
  -- Positions before the fragment are too small, those after it too large.
  rw [Fragment.placedWithin, hplaced, List.filter_append, List.filter_append,
    List.filter_eq_nil_iff.mpr, List.filter_eq_self.mpr, List.filter_eq_nil_iff.mpr,
    List.nil_append, List.append_nil, List.map_map]
  · convert List.map_id f.placed
    funext p
    refine Prod.ext ?_ rfl
    change frame.before.text.length + (1 + p.1) - (frame.before.text.length + 1) = p.1
    omega
  · rintro _ hp
    obtain ⟨p, -, rfl⟩ := List.mem_map.mp hp
    simp only [decide_eq_true_eq]
    omega
  · rintro _ hp
    obtain ⟨p, hinner, rfl⟩ := List.mem_map.mp hp
    have := Fragment.lt_length_of_mem_placed hinner
    simp only [decide_eq_true_eq]
    omega
  · intro p hp
    have := Fragment.lt_length_of_mem_placed hp
    simp only [decide_eq_true_eq]
    omega

theorem around_eq (frame : Frame) (f : Fragment) :
    frame.around f =
      ⟨frame.before.text ++ "(" ++ f.text ++ ")" ++ frame.after.text,
        frame.before.params ++ f.params ++ frame.after.params⟩ := by
  change Fragment.mk (_ ++ ("(" ++ f.text ++ ")" ++ _)) (_ ++ (f.params ++ _)) = _
  simp only [String.append_assoc, List.append_assoc]

/-- An embedded fragment keeps its values if what stands before it is closed and balanced. -/
theorem embeds_around {frame : Frame} {f : Fragment} (hbefore : frame.before.Stable)
    (hf : f.Stable) : frame.Embeds f (frame.around f) where
  text := by rw [around_eq]
  params := by rw [around_eq]
  closed := hbefore.closed
  count := Fragment.isBalanced_iff.mp hbefore.balanced
  placed := placedWithin_around hbefore hf
  values := Fragment.map_snd_placed hf.balanced

namespace Embeds

variable {frame inner outer : Frame} {f part whole : Fragment}

theorem eq_around (h : frame.Embeds f whole) : whole = frame.around f := by
  rw [around_eq, ← h.text, ← h.params]

theorem stable (h : frame.Embeds f whole) : frame.before.Stable :=
  ⟨Fragment.isBalanced_iff.mpr h.count, h.closed⟩

/-- What is embedded in an embedded fragment is embedded in the whole. -/
theorem within (hf : f.Stable) (hinner : inner.Embeds f part) (houter : outer.Embeds part whole) :
    (inner.within outer).Embeds f whole := by
  rw [houter.eq_around, hinner.eq_around, ← around_within]
  exact embeds_around (stable_within hinner.stable houter.stable) hf

end Embeds

end Frame

/-! ## Code inside code -/

/-- `part` stands in `whole`, and its placeholders take its own values. -/
def Fragment.Holds (whole part : Fragment) : Prop :=
  ∃ before after, before.Stable ∧ whole = before ++ (part ++ after)

/-- `part` is among the code that `code` is put together from. -/
inductive Code.Occurs (part : Code) : Code → Prop
  | here : Occurs part part
  | parens {inner : Code} (h : Occurs part inner) : Occurs part (.parens inner)
  | left {first second : Code} (h : Occurs part first) : Occurs part (first ++ second)
  | right {first second : Code} (h : Occurs part second) : Occurs part (first ++ second)

namespace Code.Occurs

variable {part code whole : Code}

theorem trans (h : part.Occurs code) (hcode : code.Occurs whole) : part.Occurs whole := by
  induction hcode with
  | here => exact h
  | parens _ ih => exact .parens ih
  | left _ ih => exact .left ih
  | right _ ih => exact .right ih

theorem holds (h : part.Occurs code) (hnative : code.Native) :
    code.fragment.Holds part.fragment := by
  induction h with
  | here =>
    refine ⟨⟨"", []⟩, ⟨"", []⟩, ⟨rfl, by decide⟩, ?_⟩
    rw [Fragment.append_empty, Fragment.mk_append, String.empty_append]
    rfl
  | parens _ ih =>
    obtain ⟨before, after, hbefore, hinner⟩ := ih hnative
    refine ⟨⟨"(", []⟩ ++ before, after ++ ⟨")", []⟩, Fragment.stable_mark.append hbefore, ?_⟩
    rw [fragment_parens, Fragment.parenthesize_eq, hinner]
    simp only [Fragment.append_assoc]
  | @left first second _ ih =>
    obtain ⟨before, after, hbefore, hfirst⟩ := ih hnative.1
    refine ⟨before, after ++ second.fragment, hbefore, ?_⟩
    rw [fragment_append, hfirst]
    simp only [Fragment.append_assoc]
  | @right first second _ ih =>
    obtain ⟨before, after, hbefore, hsecond⟩ := ih hnative.2
    refine ⟨first.fragment ++ before, after, (stable_fragment hnative.1).append hbefore, ?_⟩
    rw [fragment_append, hsecond]
    simp only [Fragment.append_assoc]

end Code.Occurs

end SeriesSql.Sql
