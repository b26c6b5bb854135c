namespace PixelTelescope.Bounds

/-- How many integers 64 bits tell apart. -/
def words : Int := 18446744073709551616

/-- The least integer of 64 bits with a sign. -/
def least64 : Int := -9223372036854775808

/-- The greatest integer of 64 bits with a sign. -/
def greatest64 : Int := 9223372036854775807

def fits64 (n : Int) : Bool := least64 ≤ n && n ≤ greatest64

/-- The integers of 32 bits with a sign. -/
def fits32 (n : Int) : Bool := -2147483648 ≤ n && n ≤ 2147483647

end PixelTelescope.Bounds
