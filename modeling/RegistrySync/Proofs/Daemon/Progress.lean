import Mathlib.Data.List.Induction
import Mathlib.Tactic.Lemma
import RegistrySync.Daemon.Client
import RegistrySync.Proofs.World.Attempt

/-!
The stream of messages, read in pieces and read as a whole.

However a stream is cut into pieces, it is read as its lines are, one after the other, up to the
first that tells of an error. A newline ends a line; what follows the last newline is a line of its
own if the stream came to its end, and is lost if it broke off.
-/

namespace RegistrySync.Daemon

namespace Progress

open Text.Utf8 (decodeLossy)

variable {bytes : List UInt8} {lines : List (List UInt8)} {b : UInt8} {e : Error}

/-! ### Lines -/

/-- How a stream falls into lines. -/
structure IsSplit (bytes : List UInt8) (lines : List (List UInt8)) (last : List UInt8) : Prop where
  whole : lines.flatten ++ last = bytes
  /-- A newline ends each line, and no other stands in it. -/
  ended : ∀ line ∈ lines, ∃ body, line = body ++ [newline] ∧ newline ∉ body
  last : newline ∉ last

lemma isSplit_splitLines (bytes : List UInt8) :
    IsSplit bytes (splitLines bytes).1 (splitLines bytes).2 := by
  induction bytes with
  | nil => exact ⟨rfl, nofun, nofun⟩
  | cons b rest ih =>
    obtain ⟨hwhole, hended, hlast⟩ := ih
    rcases hs : splitLines rest with ⟨lines, last⟩
    rw [hs] at hwhole hended hlast
    dsimp only at hwhole hended hlast
    by_cases hb : b = newline
    · have hsplit : splitLines (b :: rest) = ([b] :: lines, last) := by simp [splitLines, hs, hb]
      rw [hsplit]
      refine ⟨by simp [hwhole], fun line hline => ?_, hlast⟩
      rcases List.mem_cons.1 hline with rfl | hline
      · exact ⟨[], by simp [hb], nofun⟩
      · exact hended line hline
    · rcases lines with _ | ⟨l, ls⟩
      · have hsplit : splitLines (b :: rest) = ([], b :: last) := by simp [splitLines, hs, hb]
        rw [hsplit]
        exact ⟨by simpa using hwhole, nofun, by simp [hlast, Ne.symm hb]⟩
      · have hsplit : splitLines (b :: rest) = ((b :: l) :: ls, last) := by
          simp [splitLines, hs, hb]
        rw [hsplit]
        refine ⟨by simpa using hwhole, fun line hline => ?_, hlast⟩
        rcases List.mem_cons.1 hline with rfl | hline
        · obtain ⟨body, rfl, hbody⟩ := hended l List.mem_cons_self
          exact ⟨b :: body, rfl, by simp [hbody, Ne.symm hb]⟩
        · exact hended line (List.mem_cons_of_mem l hline)

lemma splitLines_concat (bytes : List UInt8) (b : UInt8) :
    splitLines (bytes ++ [b]) =
      if b = newline then ((splitLines bytes).1 ++ [(splitLines bytes).2 ++ [b]], [])
      else ((splitLines bytes).1, (splitLines bytes).2 ++ [b]) := by
  induction bytes with
  | nil => by_cases hb : b = newline <;> simp [splitLines, hb]
  | cons c rest ih =>
    rcases hs : splitLines rest with ⟨lines, last⟩
    rw [hs] at ih
    rw [List.cons_append, splitLines, ih, splitLines, hs]
    by_cases hc : c = newline
    · by_cases hb : b = newline <;> simp [hb, hc]
    · by_cases hb : b = newline <;> rcases lines with _ | ⟨l, ls⟩ <;> simp [hb, hc]

/-! ### Pieces -/

/-- Where a reading stands behind some bytes: all ended lines are taken in, and what follows the
last newline is kept. -/
lemma foldl_byte (bytes : List UInt8) :
    bytes.foldl Reading.byte ⟨none, []⟩ =
      ⟨(splitLines bytes).1.foldl (fun p l => p.line l) none, (splitLines bytes).2.reverse⟩ := by
  induction bytes using List.reverseRecOn with
  | nil => rfl
  | append_singleton bytes b ih =>
    rw [List.foldl_append, ih, splitLines_concat, List.foldl_cons, List.foldl_nil, Reading.byte]
    by_cases hb : b = newline
    · simp [hb]
    · simp [hb]

lemma ofChunks_eq_ofBytes (chunks : List (List UInt8)) (isComplete : Bool) (onBreak : Error) :
    ofChunks chunks isComplete onBreak = ofBytes chunks.flatten isComplete onBreak := by
  have hread : chunks.foldl Reading.chunk ⟨none, []⟩ =
      chunks.flatten.foldl Reading.byte ⟨none, []⟩ := by
    rw [List.foldl_flatten]
    rfl
  rw [ofChunks, ofBytes, hread, foldl_byte]
  simp [Reading.finish]

/-! ### Reading line by line -/

/-- Reads lines in their order, up to the first that tells of an error. -/
def ofLines : List (List UInt8) → Progress
  | [] => none
  | l :: ls =>
    match checkLine (decodeLossy l) with
    | .error e => ⟨[], some e⟩
    | .ok text => ⟨text.toList ++ (ofLines ls).shown, (ofLines ls).error⟩

/-- The lines of a stream that are read. -/
def readLines (bytes : List UInt8) (isWhole : Bool) : List (List UInt8) :=
  let (lines, last) := splitLines bytes
  if isWhole && !last.isEmpty then lines ++ [last] else lines

lemma foldl_line_error (ls : List (List UInt8)) {p : Progress} (h : p.error = some e) :
    ls.foldl (fun p l => p.line l) p = p := by
  induction ls with
  | nil => rfl
  | cons l ls ih => rw [List.foldl_cons, line, h, ih]

lemma foldl_line (ls : List (List UInt8)) (shown : List String) :
    ls.foldl (fun p l => p.line l) (⟨shown, .none⟩ : Progress) =
      ⟨shown ++ (ofLines ls).shown, (ofLines ls).error⟩ := by
  induction ls generalizing shown with
  | nil => simp [ofLines, none]
  | cons l ls ih =>
    rw [List.foldl_cons, line, ofLines]
    rcases checkLine (decodeLossy l) with e | _ | text
    · rw [foldl_line_error ls rfl]
      simp
    · simpa using ih shown
    · simpa using ih (shown ++ [text])

lemma ofBytes_eq_ofLines (bytes : List UInt8) (isWhole : Bool) (onBreak : Error) :
    ofBytes bytes isWhole onBreak =
      ⟨(ofLines (readLines bytes isWhole)).shown, (ofLines (readLines bytes isWhole)).error <|>
        if isWhole then .none else some onBreak⟩ := by
  have hfold (ls : List (List UInt8)) : ls.foldl (fun p l => p.line l) none = ofLines ls := by
    simpa [none] using foldl_line ls []
  rw [ofBytes, readLines]
  rcases splitLines bytes with ⟨lines, last⟩
  cases isWhole with
  | false => simp [hfold]
  | true =>
    by_cases hl : last.isEmpty
    · simp [hl, hfold]
    · have hlast : (ofLines lines).line last = ofLines (lines ++ [last]) := by
        rw [← hfold, ← hfold, List.foldl_append]
        rfl
      simp [hl, hfold, hlast]

lemma error_ofLines (ls : List (List UInt8)) :
    (ofLines ls).error = .none ↔ ∀ l ∈ ls, ∃ text, checkLine (decodeLossy l) = .ok text := by
  induction ls with
  | nil => exact ⟨fun _ => nofun, fun _ => rfl⟩
  | cons l ls ih =>
    rw [ofLines, List.forall_mem_cons]
    rcases checkLine (decodeLossy l) with e | text
    · simp
    · simpa using ih

end Progress

namespace Answer

def stream (a : Answer) : List UInt8 := if a.status.isBodiless then [] else a.chunks.flatten

def isWhole (a : Answer) : Bool := a.status.isBodiless || a.isComplete

end Answer

namespace Client

open Progress
open Text.Utf8 (decodeLossy)

variable {σ : Type} (t : Transport σ)

/-- The error that a stream comes to when it breaks off. -/
def broken : Error := Failure.brokenBody.error "message stream"

def tell (texts : List String) (s : σ) : σ := texts.foldl (fun s text => t.print ⟨.info, text⟩ s) s

lemma forM_say (texts : List String) (s : σ) :
    (texts.forM fun text => (liftM (say t .info text) : Attempt σ Unit)).run s =
      (.ok (), tell t texts s) := by
  induction texts generalizing s with
  | nil => rfl
  | cons text texts ih => exact ih (t.print ⟨.info, text⟩ s)

lemma follow_run (a : Answer) (verbose : Bool) (s : σ) :
    (follow t a verbose).run s =
      ((ofBytes a.stream a.isWhole broken).error.elim (.ok ()) .error,
        if verbose then tell t (ofBytes a.stream a.isWhole broken).shown s else s) := by
  have hstream : a.stream = (if a.status.isBodiless then [] else a.chunks).flatten := by
    rw [Answer.stream]
    split <;> rfl
  rw [hstream, ← ofChunks_eq_ofBytes]
  rw [follow]
  have hwhole : (a.status.isBodiless || a.isComplete) = a.isWhole := rfl
  have hbroken : Failure.brokenBody.error "message stream" = broken := rfl
  dsimp only
  rw [hwhole, hbroken]
  generalize ofChunks (if a.status.isBodiless then [] else a.chunks) a.isWhole broken = p
  obtain ⟨shown, error⟩ := p
  cases verbose with
  | false => rcases error with _ | e <;> rfl
  | true =>
    rw [if_pos rfl, attempt_run_bind, forM_say]
    rcases error with _ | e <;> rfl

/-- **A stream is read the same however it is cut.** Following an answer comes to what reading its
lines in their order comes to, up to the first that tells of an error, and shows what that shows;
a stream that breaks off is in error if none of its lines is. So following comes out well exactly if
the stream came to its end and no line of it tells of an error. -/
theorem follow_reads_lines (a : Answer) (verbose : Bool) (s : σ) :
    IsSplit a.stream (splitLines a.stream).1 (splitLines a.stream).2 ∧
    (follow t a verbose).run s =
      (match (ofLines (readLines a.stream a.isWhole)).error with
        | some e => .error e
        | .none => if a.isWhole then .ok () else .error broken,
       if verbose then tell t (ofLines (readLines a.stream a.isWhole)).shown s else s) ∧
    (((follow t a verbose).run s).1 = .ok () ↔ a.isWhole ∧
      ∀ l ∈ readLines a.stream a.isWhole, ∃ text, checkLine (decodeLossy l) = .ok text) := by
  have hread := follow_run t a verbose s
  rw [ofBytes_eq_ofLines] at hread
  refine ⟨isSplit_splitLines a.stream, ?_, ?_⟩
  · rw [hread]
    rcases (ofLines (readLines a.stream a.isWhole)).error with _ | e
    · cases a.isWhole <;> rfl
    · rfl
  · rw [hread, ← error_ofLines]
    rcases (ofLines (readLines a.stream a.isWhole)).error with _ | e
    · cases a.isWhole <;> simp
    · simp

end Client

end RegistrySync.Daemon
