import Intercept.Proofs.Url.Form
import Intercept.Proofs.Url.Percent
import Intercept.Url.Path
import Mathlib.Data.List.Induction

/-!
A path as it is written is read as it is: its segments are encoded, and none of them names a place.
It stays so if slashes are taken from its end and more such segments are put behind it.
-/

namespace Intercept.Url

/-- A segment that reading leaves as it is. -/
structure Settled (segment : List Char) : Prop where
  admitted : ∀ c ∈ segment, Admitted refusedInPath c
  slashless : '/' ∉ segment
  turned : '\\' ∉ segment
  notUp : isUp segment = false
  notHere : isHere segment = false

theorem settled_nil : Settled [] := ⟨by simp, by simp, by simp, by decide, by decide⟩

def written (segments : List (List Char)) : List Char := segments.flatMap ('/' :: ·)

theorem written_append (front back : List (List Char)) :
    written (front ++ back) = written front ++ written back := List.flatMap_append

theorem written_cons (segment : List Char) (segments : List (List Char)) :
    written (segment :: segments) = '/' :: List.intercalate ['/'] (segment :: segments) := by
  induction segments generalizing segment with
  | nil => simp [written]
  | cons next segments ih =>
    rw [Form.intercalate_cons_cons, ← ih next]
    rfl

/-! ### What is read is settled -/

theorem addSegment_settled {done : List (List Char)} {segment : List Char}
    (hdone : ∀ s ∈ done, Settled s) (hsegment : isUp segment = false → isHere segment = false →
      Settled segment) : ∀ s ∈ addSegment done segment, Settled s := by
  rw [addSegment]
  split
  · cases done with
    | nil => simp [stepUp]
    | cons s done =>
      rw [stepUp]
      split
      · exact hdone
      · exact (List.forall_mem_cons.1 hdone).2
  next hup =>
    split
    · exact hdone
    next hhere =>
      exact List.forall_mem_cons.2 ⟨hsegment (by simpa using hup) (by simpa using hhere), hdone⟩

/-- The last segment is taken like the others, and followed by an empty one if it names a place. -/
theorem segments_last (done : List (List Char)) (last : List Char) :
    segments done [last] = addSegment done last ∨
      segments done [last] = [] :: addSegment done last := by
  rw [segments, addSegment]
  split
  · exact .inr rfl
  · split
    · exact .inr rfl
    · exact .inl rfl

theorem segments_settled (parts : List (List Char)) {done : List (List Char)}
    (hdone : ∀ s ∈ done, Settled s)
    (hparts : ∀ s ∈ parts, isUp s = false → isHere s = false → Settled s) :
    ∀ s ∈ segments done parts, Settled s := by
  induction parts generalizing done with
  | nil => exact hdone
  | cons part parts ih =>
    obtain ⟨hpart, hparts⟩ := List.forall_mem_cons.1 hparts
    have hadd := addSegment_settled hdone hpart
    cases parts with
    | nil =>
      rcases segments_last done part with h | h
      · rw [h]
        exact hadd
      · rw [h]
        exact List.forall_mem_cons.2 ⟨settled_nil, hadd⟩
    | cons next parts => exact ih hadd hparts

theorem segments_ne_nil (parts : List (List Char)) (hne : parts ≠ []) (done : List (List Char)) :
    segments done parts ≠ [] := by
  induction parts generalizing done with
  | nil => exact absurd rfl hne
  | cons part parts ih =>
    cases parts with
    | nil =>
      rw [segments]
      split
      · simp
      · split <;> simp
    | cons next parts => exact ih (by simp) _

/-- A path is read from the text behind its first slash, with all slashes turned. -/
theorem pathOfText_eq (cs : List Char) :
    ∃ inner, '\\' ∉ inner ∧ pathOfText cs =
      written (segments [] ((Form.split '/' inner).map (encodePart refusedInPath))).reverse := by
  have hturned : '\\' ∉ cs.map fun c => if c = '\\' then '/' else c := by
    simp only [List.mem_map, not_exists, not_and]
    intro c _
    split
    · decide
    next h => exact h
  rw [pathOfText]
  split
  next rest h =>
    rw [h] at hturned
    exact ⟨rest, fun hc => hturned (List.mem_cons_of_mem _ hc), rfl⟩
  next => exact ⟨_, hturned, rfl⟩

/-- Every path that is read is made of settled segments, and of one at least. -/
theorem pathOfText_eq_written (cs : List Char) :
    ∃ segments ≠ [], (∀ s ∈ segments, Settled s) ∧ pathOfText cs = written segments := by
  obtain ⟨inner, hinner, heq⟩ := pathOfText_eq cs
  have hparts : ∀ s ∈ (Form.split '/' inner).map (encodePart refusedInPath),
      isUp s = false → isHere s = false → Settled s := by
    intro s hs hup hhere
    obtain ⟨part, hpart, rfl⟩ := List.mem_map.1 hs
    obtain ⟨hback, hslash⟩ := Form.split_all (P := fun cs => '\\' ∉ cs)
      (fun front back _ h => by simpa using h) hinner part hpart
    have hnot {c : Char} (hc : c ∉ part) (hcode : c ≠ '%' ∧ ∀ n < 16, c ≠ upperHex n) :
        c ∉ encodePart refusedInPath part := notMem_encodePart hc hcode.1 hcode.2
    exact ⟨fun _ => admitted_of_mem_encodePart admitsCodes_path, hnot hslash (by decide),
      hnot hback (by decide), hup, hhere⟩
  refine ⟨_, ?_, fun s hs => ?_, heq⟩
  · simpa using segments_ne_nil _ (by simpa using Form.split_ne_nil inner) []
  · exact segments_settled _ (by simp) hparts s (List.mem_reverse.1 hs)

/-! ### What is settled is read as it is -/

theorem segments_of_settled (parts done : List (List Char)) (h : ∀ s ∈ parts, Settled s) :
    segments done parts = parts.reverse ++ done := by
  induction parts generalizing done with
  | nil => rfl
  | cons part parts ih =>
    obtain ⟨hpart, hparts⟩ := List.forall_mem_cons.1 h
    have hadd : addSegment done part = part :: done := by
      rw [addSegment, hpart.notUp, hpart.notHere]
      rfl
    cases parts with
    | nil =>
      rw [segments, hpart.notUp, hpart.notHere]
      rfl
    | cons next parts =>
      rw [segments, hadd, ih _ hparts]
      · simp
      · simp

theorem pathOfText_written {segments : List (List Char)} (hne : segments ≠ [])
    (h : ∀ s ∈ segments, Settled s) : pathOfText (written segments) = written segments := by
  obtain ⟨s, ss, rfl⟩ := List.exists_cons_of_ne_nil hne
  have hturned : (written (s :: ss)).map (fun c => if c = '\\' then '/' else c) =
      written (s :: ss) := by
    rw [List.map_congr_left (g := id), List.map_id]
    intro c hc
    obtain ⟨t, ht, hc⟩ := List.mem_flatMap.1 hc
    refine if_neg ?_
    rcases List.mem_cons.1 hc with rfl | hc
    · decide
    · exact fun he => (h t ht).turned (he ▸ hc)
  have hsplit : Form.split '/' (List.intercalate ['/'] (s :: ss)) = s :: ss :=
    Form.split_intercalate (by simp) fun t ht => (h t ht).slashless
  have hencoded : (s :: ss).map (encodePart refusedInPath) = s :: ss := by
    rw [List.map_congr_left (g := id), List.map_id]
    exact fun t ht => encodePart_of_admitted (h t ht).admitted
  rw [pathOfText, hturned, written_cons]
  simp only [hsplit, hencoded]
  rw [segments_of_settled _ _ h, List.append_nil, List.reverse_reverse, ← written_cons]
  rfl

theorem pathOfText_pathOfText (cs : List Char) : pathOfText (pathOfText cs) = pathOfText cs := by
  obtain ⟨segments, hne, hsettled, h⟩ := pathOfText_eq_written cs
  rw [h, pathOfText_written hne hsettled]

/-! ### Slashes at the end -/

def trimSlashes (path : List Char) : List Char := (path.reverse.dropWhile (· == '/')).reverse

theorem trimSlashes_written (segments : List (List Char)) (h : ∀ s ∈ segments, Settled s) :
    ∃ rest, (∀ s ∈ rest, Settled s) ∧ trimSlashes (written segments) = written rest := by
  induction segments using List.reverseRecOn with
  | nil => exact ⟨[], by simp, rfl⟩
  | append_singleton front last ih =>
    obtain ⟨hfront, hlast⟩ := List.forall_mem_append.1 h
    rcases List.eq_nil_or_concat last with rfl | ⟨init, c, rfl⟩
    · obtain ⟨rest, hrest, heq⟩ := ih hfront
      refine ⟨rest, hrest, ?_⟩
      rw [← heq, written_append]
      simp [trimSlashes, written]
    · refine ⟨_, h, ?_⟩
      have hc : c ≠ '/' := by
        rintro rfl
        exact (hlast _ List.mem_cons_self).slashless (by simp)
      rw [written_append]
      simp [trimSlashes, written, hc]

/-- Settled segments behind a path that was read and lost the slashes at its end. -/
theorem pathOfText_trim_append (cs : List Char) {more : List (List Char)} (hne : more ≠ [])
    (hmore : ∀ s ∈ more, Settled s) :
    pathOfText (trimSlashes (pathOfText cs) ++ written more) =
      trimSlashes (pathOfText cs) ++ written more := by
  obtain ⟨segments, -, hsettled, h⟩ := pathOfText_eq_written cs
  obtain ⟨rest, hrest, htrim⟩ := trimSlashes_written segments hsettled
  rw [h, htrim, ← written_append]
  exact pathOfText_written (by simp [hne]) (List.forall_mem_append.2 ⟨hrest, hmore⟩)

end Intercept.Url
