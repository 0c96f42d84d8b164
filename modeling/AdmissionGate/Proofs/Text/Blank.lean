import AdmissionGate.Text.Blank
import Mathlib.Data.List.TakeWhile

/-!
# Blanks around a text

Cutting off the blanks of a text that is put together from parts.  A part that
stops the cut is kept, and so is all that lies behind it.
-/

namespace AdmissionGate.Text

def Blank (text : List Char) : Prop :=
  ∀ character ∈ text, isBlank character = true

/-! ## Cuts that are stopped -/

section

variable {cut : Char → Bool} {front back : List Char}
  (stop : ∀ character ∈ back.head?, cut character = false)

include stop

theorem dropWhile_eq_self_of_stop : back.dropWhile cut = back := by
  cases back with
  | nil => rfl
  | cons character rest => simp [stop character rfl]

theorem takeWhile_eq_nil_of_stop : back.takeWhile cut = [] := by
  cases back with
  | nil => rfl
  | cons character rest => simp [stop character rfl]

theorem dropWhile_append_of_stop :
    (front ++ back).dropWhile cut = front.dropWhile cut ++ back := by
  rw [List.dropWhile_append]
  split
  · rename_i hempty
    rw [List.isEmpty_iff.1 hempty, dropWhile_eq_self_of_stop stop]
    rfl
  · rfl

theorem takeWhile_append_of_stop :
    (front ++ back).takeWhile cut = front.takeWhile cut := by
  rw [List.takeWhile_append]
  split
  · rename_i hlength
    have hself : front.takeWhile cut = front :=
      (List.takeWhile_prefix cut).eq_of_length hlength
    rw [takeWhile_eq_nil_of_stop stop, List.append_nil, hself]
  · rfl

end

/-! ## Ends -/

section

variable {front text back : List Char}

theorem trimStart_append_of_blank (hfront : Blank front) :
    trimStart (front ++ text) = trimStart text :=
  List.dropWhile_append_of_pos hfront

theorem mem_getLast?_of_trimStart {character : Char}
    (h : character ∈ (trimStart text).getLast?) : character ∈ text.getLast? := by
  rw [← @List.takeWhile_append_dropWhile _ isBlank text, List.getLast?_append,
    show (text.dropWhile isBlank).getLast? = some character from h]
  rfl

theorem trimEnd_append_of_blank (hback : Blank back) :
    trimEnd (text ++ back) = trimEnd text := by
  have hreverse : Blank back.reverse :=
    fun character h => hback character (List.mem_reverse.1 h)
  rw [trimEnd, List.reverse_append, List.dropWhile_append_of_pos hreverse, trimEnd]

theorem trimEnd_append_of_stop
    (stop : ∀ character ∈ text.getLast?, isBlank character = false) :
    trimEnd (text ++ back) = text ++ trimEnd back := by
  have hstop : ∀ character ∈ text.reverse.head?, isBlank character = false := by
    simpa using stop
  rw [trimEnd, List.reverse_append, dropWhile_append_of_stop hstop,
    List.reverse_append, List.reverse_reverse, trimEnd]

theorem trimEnd_eq_self_of_stop
    (stop : ∀ character ∈ text.getLast?, isBlank character = false) :
    trimEnd text = text := by
  have h : trimEnd (text ++ []) = text ++ trimEnd [] := trimEnd_append_of_stop stop
  simpa [trimEnd] using h

theorem trimStart_eq_nil_of_blank (hback : Blank back) : trimStart back = [] :=
  List.dropWhile_eq_nil_iff.2 hback

theorem trim_append_of_stop (hfront : Blank front) (hback : Blank back)
    (head : ∀ character ∈ text.head?, isBlank character = false)
    (last : ∀ character ∈ text.getLast?, isBlank character = false) :
    trim (front ++ (text ++ back)) = text := by
  rw [trim, trimStart_append_of_blank hfront]
  cases text with
  | nil =>
      rw [List.nil_append, trimStart_eq_nil_of_blank hback]
      rfl
  | cons character rest =>
      have hself : trimStart (character :: rest ++ back) = character :: rest ++ back :=
        dropWhile_eq_self_of_stop head
      rw [hself, trimEnd_append_of_blank hback, trimEnd_eq_self_of_stop last]

theorem exists_eq_trim (text : List Char) :
    ∃ front back, Blank front ∧ Blank back ∧ text = front ++ (trim text ++ back) := by
  have hback : trimEnd (trimStart text) ++
      ((trimStart text).reverse.takeWhile isBlank).reverse = trimStart text := by
    rw [trimEnd, ← List.reverse_append, List.takeWhile_append_dropWhile,
      List.reverse_reverse]
  refine ⟨text.takeWhile isBlank,
    ((trimStart text).reverse.takeWhile isBlank).reverse, ?_, ?_, ?_⟩
  · exact fun character h => List.mem_takeWhile_imp h
  · exact fun character h => List.mem_takeWhile_imp (List.mem_reverse.1 h)
  · rw [trim, hback, trimStart, List.takeWhile_append_dropWhile]

end

end AdmissionGate.Text
