/-!
# Markup

Text put into markup is escaped, so that it can neither open a tag nor end an attribute. Main
statement: `not_mem_escape`, no escaped text holds one of the five characters with a meaning.
-/

namespace Folio.Text

/-- The characters with a meaning in markup, apart from the ampersand that writes them. -/
def isMarkup (c : Char) : Bool := c == '<' || c == '>' || c == '\x22' || c == '\x27'

/-- How one character of a text stands in markup. -/
def escapeChar (c : Char) : List Char :=
  if c = '&' then ['&', '#', '3', '8', ';']
  else if c = '<' then ['&', '#', '6', '0', ';']
  else if c = '>' then ['&', '#', '6', '2', ';']
  else if c = '\x22' then ['&', '#', '3', '4', ';']
  else if c = '\x27' then ['&', '#', '3', '9', ';']
  else [c]

/-- A text as markup. -/
def escape (s : String) : String := String.ofList (s.toList.flatMap escapeChar)

/-- A text as markup between an opening and a closing part, which are markup already. -/
def wrap (opening text closing : String) : String := opening ++ escape text ++ closing

theorem escapeChar_plain (c : Char) : ∀ d ∈ escapeChar c, isMarkup d = false := by
  unfold escapeChar
  repeat' split
  all_goals simp_all [isMarkup]

/-- No escaped text holds an angle bracket or a quote. -/
theorem not_mem_escape (s : String) : ∀ d ∈ (escape s).toList, isMarkup d = false := by
  intro d hd
  simp only [escape, String.toList_ofList, List.mem_flatMap] at hd
  obtain ⟨c, -, hc⟩ := hd
  exact escapeChar_plain c d hc

end Folio.Text
