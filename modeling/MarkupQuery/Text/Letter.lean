namespace MarkupQuery.Text

def lowerAscii (c : Char) : Char :=
  if 'A' ≤ c && c ≤ 'Z' then Char.ofNat (c.toNat + 32) else c

def lowered (s : String) : String := String.ofList (s.toList.map lowerAscii)

def upperToAscii (c : Char) : Char :=
  if 'a' ≤ c && c ≤ 'z' then Char.ofNat (c.toNat - 32)
  else if c.toNat == 0x131 then 'I'
  else if c.toNat == 0x17F then 'S'
  else c

def uppered (s : String) : String := String.ofList (s.toList.map upperToAscii)

end MarkupQuery.Text
