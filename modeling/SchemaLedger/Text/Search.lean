namespace SchemaLedger

def startsWith (word text : String) : Bool :=
  word.toList.isPrefixOf text.toList

def endsWith (word text : String) : Bool :=
  word.toList.isSuffixOf text.toList

def occursInList (word : List Char) : List Char → Bool
  | [] => word.isEmpty
  | c :: rest => word.isPrefixOf (c :: rest) || occursInList word rest

def occursIn (word text : String) : Bool :=
  occursInList word.toList text.toList

end SchemaLedger
