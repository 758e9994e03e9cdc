import FieldPattern.Proofs.Pattern.Scan

/-!
# Scanning a text with an expression

What the standard engine reports for a text, when it is given the pattern of an expression, is
complete: the matches follow one another without meeting, none is reported twice, each is the one
that the order of trials prefers at its place, and nothing is left out between them
(`findEvery_isComplete`). All of this is said of the reported offsets and groups. The occurrences
from which they are taken carry the same facts (`Pattern.isComplete_findAll`), and where the scan
tries a place again is seen from a reported match as well as from its occurrence.

An expression may be found in an empty text, if it is empty itself or if its fields may all hold
nothing. Then an empty match does not end the search at its place: what is longer may follow it
there, and only behind that, or if there is no such thing, the scan moves on.
-/

namespace FieldPattern
namespace Compiled

/-- All that the standard engine finds in a text when it is given the pattern of an expression. -/
def findEvery (flags : Flags) (c : Compiled) (text : List Char) : Except Failure (List Hit) :=
  Id.run ((Engine.standard flags).all c.pattern (.str (String.ofList text)))

theorem regexOf_scan (flags : Flags) (p : Pattern) (text : List Char) :
    (Engine.regexOf flags p : Regex Id).scan (.str (String.ofList text)) =
      ⟨(p.findAll flags text).map Occurrence.hit, none⟩ := by
  show Scan.mk ((p.findAll flags (String.ofList text).toList).map Occurrence.hit) none = _
  rw [String.toList_ofList]

/-- The engine scans with the atoms of the expression, and it never fails. -/
theorem findEvery_eq (flags : Flags) (c : Compiled) (text : List Char) :
    c.findEvery flags text = .ok ((c.atoms.findAll flags text).map Occurrence.hit) := by
  rw [findEvery, Engine.all, compile_pattern]
  exact congrArg Scan.toExcept (regexOf_scan flags c.atoms text)

end Compiled

/-! ## Reported matches -/

namespace Hit

/-- The match is empty and stands at the offset, so only what moves may follow it there. -/
def isEmptyAt (h : Hit) (q : Nat) : Bool :=
  h.start == q && h.stop == q

end Hit

/-- Whether the scan tries a place again is seen from the last match that it reported. -/
theorem retries_eq_isEmptyAt {o : Occurrence} (hspan : o.start ≤ o.stop) (q : Nat) :
    Pattern.retries (some o) q = o.hit.isEmptyAt q := by
  show (o.length == 0 && o.stop == q) = (o.start == q && o.stop == q)
  rw [Bool.eq_iff_iff, Bool.and_eq_true, Bool.and_eq_true, beq_iff_eq, beq_iff_eq, beq_iff_eq,
    Occurrence.length]
  omega

/-- The matches that are reported behind some others come from occurrences that are complete behind
the last one before them. -/
theorem Pattern.IsComplete.behind_hits {flags : Flags} {p : Pattern} {text : List Char}
    {found : List Occurrence} (h : IsComplete flags p text none found) {before rest : List Hit}
    (hhits : found.map Occurrence.hit = before ++ rest) :
    ∃ (last : Option Occurrence) (left : List Occurrence),
      before.getLast? = last.map Occurrence.hit ∧ left.map Occurrence.hit = rest ∧
        (∀ q, retries last q = before.getLast?.any (·.isEmptyAt q)) ∧
        IsComplete flags p text last left := by
  obtain ⟨front, left, rfl, rfl, rfl⟩ := List.map_eq_append_iff.1 hhits
  have hleft := h.behind
  rw [Option.or_none] at hleft
  refine ⟨front.getLast?, left, List.getLast?_map, rfl, fun q => ?_, hleft⟩
  rw [List.getLast?_map]
  cases hlast : front.getLast? with
  | none => rfl
  | some o =>
    have hmem := List.mem_append_left left (List.mem_of_getLast? hlast)
    exact retries_eq_isEmptyAt (h.bounds o hmem).2.1 q

/-- Scanning a text with an expression gives a list of matches. They are in order and do not
overlap, and no span is reported twice. Each has the pieces that the order of trials prefers at its
place, where those that do not move are passed over right behind an empty match; its groups hold the
pieces of the captures. At a place between two neighbours, before the first or behind the last,
nothing stands, except that the empty match before such a place may stand where it ends. -/
theorem findEvery_isComplete (flags : Flags) (strict : Bool) (left right e text : List Char) :
    ∃ hits : List Hit,
      (Compiled.ofText strict left right e).findEvery flags text = .ok hits ∧
        (∀ h ∈ hits, h.start ≤ h.stop ∧ h.stop ≤ text.length) ∧
        (hits.Pairwise fun h h' => h.stop ≤ h'.start) ∧
        (hits.map fun h => (h.start, h.stop)).Nodup ∧
        (∀ before h rest, hits = before ++ h :: rest →
          ∃ pieces, (Compiled.ofText strict left right e).atoms.IsFirst flags
              (before.getLast?.any (·.isEmptyAt h.start)) (text.drop h.start) pieces ∧
            h.stop = h.start + pieces.flatten.length ∧
            h.groups = ((Compiled.ofText strict left right e).atoms.captures pieces).map
              fun piece => some (String.ofList piece)) ∧
        ∀ before rest q, hits = before ++ rest → q ≤ text.length →
          (∀ h ∈ before.getLast?, h.stop ≤ q) → (∀ h ∈ rest.head?, q < h.start) →
            ∀ pieces, ¬ (Compiled.ofText strict left right e).atoms.Stands flags
              (before.getLast?.any (·.isEmptyAt q)) (text.drop q) pieces := by
  have hcomplete :=
    Pattern.isComplete_findAll flags (Compiled.ofText strict left right e).atoms text
  refine ⟨_, Compiled.findEvery_eq flags _ text, ?_, ?_, ?_, ?_, ?_⟩
  · rw [List.forall_mem_map]
    intro o ho
    obtain ⟨-, hle, hstop, -⟩ := hcomplete.bounds o ho
    exact ⟨hle, hstop⟩
  · rw [List.pairwise_map]
    exact hcomplete.pairwise.imp fun h => h.1
  · rw [List.map_map]
    exact hcomplete.nodup_spans
  · intro before h rest hhits
    obtain ⟨last, others, -, hothers, hretries, hbehind⟩ := hcomplete.behind_hits hhits
    obtain ⟨o, later, rfl, rfl, -⟩ := List.map_eq_cons_iff.1 hothers
    obtain ⟨-, -, ⟨pieces, hfirst, ho⟩, -⟩ := hbehind
    rw [hretries] at hfirst
    exact ⟨pieces, hfirst, congrArg Occurrence.stop ho,
      congrArg (fun o => o.hit.groups) ho⟩
  · intro before rest q hhits hq hlast hrest
    obtain ⟨last, others, hbefore, rfl, hretries, hbehind⟩ := hcomplete.behind_hits hhits
    rw [← hretries]
    refine hbehind.isFree hq ?_ ?_
    · rw [hbefore] at hlast
      cases last with
      | none => exact Nat.zero_le q
      | some o => exact hlast o.hit rfl
    · intro o ho
      apply hrest o.hit
      rw [List.head?_map, Option.mem_def.1 ho]
      rfl

/-- Behind a word that ends a line stands the empty text, and behind the line end the next word. -/
example : (Compiled.ofText false [] [] "a*".toList).findEvery {} "x\ny".toList =
    .ok [⟨[some "x"], 0, 1⟩, ⟨[some ""], 1, 1⟩, ⟨[some "y"], 2, 3⟩, ⟨[some ""], 3, 3⟩] := by
  rfl

end FieldPattern
