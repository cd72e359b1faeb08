/-!
# Character references in markup

Four characters cannot stand in the text or in a quoted attribute of a page: each has a reference.
Reading the references back from left to right gives the text that was escaped.
-/

namespace ScenarioResults.Text

def markupChar (c : Char) : List Char :=
  match c with
  | '&' => ['&', 'a', 'm', 'p', ';']
  | '<' => ['&', 'l', 't', ';']
  | '>' => ['&', 'g', 't', ';']
  | '"' => ['&', 'q', 'u', 'o', 't', ';']
  | _ => [c]

def escapeMarkup (s : String) : String := String.ofList (s.toList.flatMap markupChar)

def unescapeMarkup : List Char → List Char
  | [] => []
  | '&' :: 'a' :: 'm' :: 'p' :: ';' :: rest => '&' :: unescapeMarkup rest
  | '&' :: 'l' :: 't' :: ';' :: rest => '<' :: unescapeMarkup rest
  | '&' :: 'g' :: 't' :: ';' :: rest => '>' :: unescapeMarkup rest
  | '&' :: 'q' :: 'u' :: 'o' :: 't' :: ';' :: rest => '"' :: unescapeMarkup rest
  | c :: rest => c :: unescapeMarkup rest

theorem unescapeMarkup_markupChar (c : Char) (rest : List Char) :
    unescapeMarkup (markupChar c ++ rest) = c :: unescapeMarkup rest := by
  unfold markupChar
  split <;> simp_all [unescapeMarkup]

theorem unescapeMarkup_flatMap (cs : List Char) : unescapeMarkup (cs.flatMap markupChar) = cs := by
  induction cs with
  | nil => rfl
  | cons c rest ih => rw [List.flatMap_cons, unescapeMarkup_markupChar, ih]

end ScenarioResults.Text
