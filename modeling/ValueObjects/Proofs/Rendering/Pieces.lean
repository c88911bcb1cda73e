import ValueObjects.Proofs.Code.Layout
import ValueObjects.Proofs.Text.Occurrence

/-!
# Texts in pieces

A text that is put together from texts that are written out and from names that are not known. Whether it is one line,
how it is laid out and which words do not occur in it can be told from its pieces, if it is known what names are like.
-/

namespace ValueObjects

open Outline

/-- A part of a text: characters that are written out, or some name. -/
inductive Piece
  | text (cs : List Char)
  | name

/-- A text is put together from pieces, of which the last one comes first. Its names satisfy a condition. -/
inductive MadeOf (p : String → Prop) : List Piece → String → Prop
  | first (cs : List Char) : MadeOf p [.text cs] (String.ofList cs)
  | text {pieces : List Piece} {s : String} (h : MadeOf p pieces s) (cs : List Char) :
    MadeOf p (.text cs :: pieces) (s ++ String.ofList cs)
  | name {pieces : List Piece} {s t : String} (h : MadeOf p pieces s) (ht : p t) : MadeOf p (.name :: pieces) (s ++ t)
  | assoc {pieces : List Piece} {s t u : String} (h : MadeOf p pieces (s ++ t ++ u)) : MadeOf p pieces (s ++ (t ++ u))

/-! ## What pieces show -/

namespace Piece

/-- Decide whether a piece does not break a line. Names do not. -/
def staysOnLine : Piece → Bool
  | text cs => !cs.contains '\n'
  | name => true

/-- Decide whether the first piece begins with a character that is neither a tab nor a brace. -/
def beginsLine : List Piece → Bool
  | [] => false
  | [text cs] => cs.head?.any fun c => !(['\t', '\x7b', '\x7d'].contains c)
  | _ :: pieces => beginsLine pieces

theorem beginsLine_cons {piece : Piece} {pieces : List Piece} (h : pieces ≠ []) :
    beginsLine (piece :: pieces) = beginsLine pieces := by
  cases pieces with
  | nil => exact absurd rfl h
  | cons => cases piece <;> rfl

/-- Decide whether the last piece ends with a character that is no blank. -/
def endsLine : List Piece → Bool
  | text cs :: _ => cs.getLast?.any fun c => !Text.isBlank c
  | _ => false

/-- The number of braces that stay open, if names leave none open. -/
def openBraces? : List Piece → Option Nat
  | [] => some 0
  | text cs :: pieces => (openBraces? pieces).bind (cs.foldlM (Text.depthBehind? '\x7b' '\x7d'))
  | name :: pieces => openBraces? pieces

/-- What may still be to come of words, if names consist of characters of a kind. -/
def left (kind : Char → Bool) (words : List (List Char)) : List Piece → List (List Char)
  | [] => words
  | text cs :: pieces => cs.foldl (Text.advance words) (left kind words pieces)
  | name :: pieces => Text.absorb kind (left kind words pieces)

end Piece

namespace MadeOf

open Piece

variable {p : String → Prop} {pieces : List Piece} {s : String}

theorem oneLine (h : MadeOf OneLine pieces s) (hpieces : pieces.all staysOnLine) : OneLine s := by
  induction h with
  | first cs => exact oneLine_ofList (by simpa [staysOnLine] using hpieces)
  | text _ cs ih =>
    simp only [List.all_cons, Bool.and_eq_true] at hpieces
    exact oneLine_append.mpr ⟨ih hpieces.2, oneLine_ofList (by simpa [staysOnLine] using hpieces.1)⟩
  | name _ ht ih =>
    simp only [List.all_cons, Bool.and_eq_true] at hpieces
    exact oneLine_append.mpr ⟨ih hpieces.2, ht⟩
  | assoc _ ih => rw [← String.append_assoc]; exact ih hpieces

theorem leavesOpen (h : MadeOf Braced pieces s) {depth : Nat} (hpieces : openBraces? pieces = some depth) :
    Text.LeavesOpen '\x7b' '\x7d' depth s.toList := by
  induction h generalizing depth with
  | first cs => simpa using Text.LeavesOpen.nil.text (by decide) (by simpa [openBraces?] using hpieces)
  | text _ cs ih =>
    obtain ⟨before, hbefore, hcs⟩ := Option.bind_eq_some_iff.mp hpieces
    simpa using (ih hbefore).text (by decide) hcs
  | name _ ht ih => simpa using (ih hpieces).append ht
  | assoc _ ih => simpa using ih hpieces

theorem ne_nil (h : MadeOf p pieces s) : pieces ≠ [] := by
  induction h with
  | assoc _ ih => exact ih
  | _ => simp

theorem begins (h : MadeOf p pieces s) (hpieces : beginsLine pieces) : begins s := by
  induction h with
  | first cs => simpa [ValueObjects.begins, beginsLine] using hpieces
  | text h cs ih => exact begins_append (ih (by rwa [beginsLine_cons h.ne_nil] at hpieces))
  | name h _ ih => exact begins_append (ih (by rwa [beginsLine_cons h.ne_nil] at hpieces))
  | assoc _ ih => rw [← String.append_assoc]; exact ih hpieces

theorem ends (h : MadeOf p pieces s) (hpieces : endsLine pieces) : ends s := by
  induction h with
  | first cs => simpa [ValueObjects.ends, endsLine] using hpieces
  | text _ cs _ => exact ends_append (by simpa [ValueObjects.ends, endsLine] using hpieces)
  | name _ _ _ => cases hpieces
  | assoc _ ih => rw [← String.append_assoc]; exact ih hpieces

/-- Names that have balanced braces do not spoil a line. -/
theorem tidy (h : MadeOf Braced pieces s) (hbegins : beginsLine pieces) (hends : endsLine pieces)
    (hbraces : openBraces? pieces = some 0) : Tidy s :=
  ⟨⟨h.ends hends, (h.leavesOpen hbraces).balanced⟩, h.begins hbegins⟩

theorem awaits {kind : Char → Bool} (h : MadeOf (fun t => ∀ c ∈ t.toList, kind c) pieces s) (words : List (List Char)) :
    Text.Awaits words s.toList (left kind words pieces) := by
  induction h with
  | first cs => simpa [left] using (Text.Awaits.nil words).literal cs
  | text _ cs ih => simpa [left] using ih.literal cs
  | name _ ht ih => simpa [left] using ih.name ht
  | assoc _ ih => simpa using ih

/-- A word that no reading of the pieces comes to the end of does not occur. -/
theorem not_infix {kind : Char → Bool} (h : MadeOf (fun t => ∀ c ∈ t.toList, kind c) pieces s) {word : List Char}
    (hpieces : [] ∉ left kind [word] pieces) : ¬ word <:+: s.toList := by
  have hawaits := h.awaits [word]
  exact hawaits.not_infix hpieces (List.mem_singleton_self word)

end MadeOf

end ValueObjects
