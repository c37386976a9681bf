namespace HttpJournal

def twoTo (k : Nat) : Nat := Nat.pow 2 k

def tenTo (k : Nat) : Nat := Nat.pow 10 k

/-- Natural numbers of 64 bits are below this one. -/
def wordLimit : Nat := twoTo 64

/-- Signed integers of 64 bits reach from minus this number to below it. -/
def signedLimit : Nat := twoTo 63

end HttpJournal
