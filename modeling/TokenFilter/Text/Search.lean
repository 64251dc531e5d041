set_option autoImplicit false

namespace TokenFilter.Text

def startsWith (word text : List Char) : Bool := word.isPrefixOf text

def endsWith (word text : List Char) : Bool := word.isSuffixOf text

def contains (word : List Char) : List Char → Bool
  | [] => word.isEmpty
  | c :: rest => startsWith word (c :: rest) || contains word rest

theorem startsWith_iff (word text : List Char) : startsWith word text = true ↔ word <+: text := by
  simp [startsWith]

theorem endsWith_iff (word text : List Char) : endsWith word text = true ↔ word <:+ text := by
  simp [endsWith]

theorem contains_iff (word text : List Char) : contains word text = true ↔ word <:+: text := by
  induction text with
  | nil => simp [contains]
  | cons c rest ih => simp [contains, ih, startsWith_iff, List.infix_cons_iff]

end TokenFilter.Text
