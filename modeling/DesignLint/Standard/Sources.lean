/-! The predeclared packages of the libraries std and ieee, as the lines of the files that declare them. Only
declarations matter; there are no bodies. -/
namespace DesignLint.Standard

/-- The lines of package std.standard. -/
def standardLines : List String := [
  "-- Predeclared declarations of package STD.STANDARD (IEEE 1076-2008, 16.3).",
  "-- Implicit operators are not listed; the analyzer only needs the names.",
  "",
  "package standard is",
  "  type boolean is (false, true);",
  "  type bit is ('0', '1');",
  "",
  "  type character is (",
  "    nul, soh, stx, etx, eot, enq, ack, bel,",
  "    bs,  ht,  lf,  vt,  ff,  cr,  so,  si,",
  "    dle, dc1, dc2, dc3, dc4, nak, syn, etb,",
  "    can, em,  sub, esc, fsp, gsp, rsp, usp,",
  "    ' ', '!', '\"', '#', '$', '%', '&', ''',",
  "    '(', ')', '*', '+', ',', '-', '.', '/',",
  "    '0', '1', '2', '3', '4', '5', '6', '7',",
  "    '8', '9', ':', ';', '<', '=', '>', '?',",
  "    '@', 'A', 'B', 'C', 'D', 'E', 'F', 'G',",
  "    'H', 'I', 'J', 'K', 'L', 'M', 'N', 'O',",
  "    'P', 'Q', 'R', 'S', 'T', 'U', 'V', 'W',",
  "    'X', 'Y', 'Z', '[', '\\', ']', '^', '_',",
  "    '`', 'a', 'b', 'c', 'd', 'e', 'f', 'g',",
  "    'h', 'i', 'j', 'k', 'l', 'm', 'n', 'o',",
  "    'p', 'q', 'r', 's', 't', 'u', 'v', 'w',",
  "    'x', 'y', 'z', '\x7b', '|', '\x7d', '~', del);",
  "",
  "  type severity_level is (note, warning, error, failure);",
  "",
  "",
  "  type integer is range -2147483647 to 2147483647;",
  "  type real is range -1.7976931348623157e308 to 1.7976931348623157e308;",
  "",
  "  type time is range -9223372036854775807 to 9223372036854775807",
  "    units",
  "      fs;",
  "      ps = 1000 fs;",
  "      ns = 1000 ps;",
  "      us = 1000 ns;",
  "      ms = 1000 us;",
  "      sec = 1000 ms;",
  "      min = 60 sec;",
  "      hr = 60 min;",
  "    end units;",
  "",
  "  subtype delay_length is time range 0 fs to time'high;",
  "",
  "  impure function now return delay_length;",
  "",
  "  subtype natural is integer range 0 to integer'high;",
  "  subtype positive is integer range 1 to integer'high;",
  "",
  "  type string is array (positive range <>) of character;",
  "  type boolean_vector is array (natural range <>) of boolean;",
  "  type bit_vector is array (natural range <>) of bit;",
  "  type integer_vector is array (natural range <>) of integer;",
  "  type real_vector is array (natural range <>) of real;",
  "  type time_vector is array (natural range <>) of time;",
  "",
  "  type file_open_kind is (read_mode, write_mode, append_mode);",
  "  type file_open_status is (open_ok, status_error, name_error, mode_error);",
  "",
  "  attribute foreign : string;",
  "",
  "  function minimum(l, r : integer) return integer;",
  "  function maximum(l, r : integer) return integer;",
  "  function to_string(value : integer) return string;",
  "  function to_hstring(value : bit_vector) return string;",
  "  function to_ostring(value : bit_vector) return string;",
  "  function to_bstring(value : bit_vector) return string;",
  "  function rising_edge(signal s : bit) return boolean;",
  "  function falling_edge(signal s : bit) return boolean;",
  "  procedure file_open(file f : text; external_name : in string; open_kind : in file_open_kind := read_mode);",
  "  procedure file_close(file f : text);",
  "  procedure deallocate(p : inout line);",
  "end package standard;"]

/-- The lines of package std.textio. -/
def textioLines : List String := [
  "-- Package STD.TEXTIO (IEEE 1076-2008, 16.4).",
  "",
  "package textio is",
  "  type line is access string;",
  "  type text is file of string;",
  "  type line_vector is array (natural range <>) of line;",
  "  type side is (right, left);",
  "  subtype width is natural;",
  "",
  "  function justify(value : string; justified : side := right; field : width := 0) return string;",
  "",
  "  file input  : text open read_mode is \"STD_INPUT\";",
  "  file output : text open write_mode is \"STD_OUTPUT\";",
  "",
  "  function endfile(file f : text) return boolean;",
  "",
  "  procedure readline(file f : text; l : inout line);",
  "  procedure read(l : inout line; value : out bit; good : out boolean);",
  "  procedure read(l : inout line; value : out bit);",
  "  procedure read(l : inout line; value : out bit_vector; good : out boolean);",
  "  procedure read(l : inout line; value : out bit_vector);",
  "  procedure read(l : inout line; value : out boolean; good : out boolean);",
  "  procedure read(l : inout line; value : out boolean);",
  "  procedure read(l : inout line; value : out character; good : out boolean);",
  "  procedure read(l : inout line; value : out character);",
  "  procedure read(l : inout line; value : out integer; good : out boolean);",
  "  procedure read(l : inout line; value : out integer);",
  "  procedure read(l : inout line; value : out real; good : out boolean);",
  "  procedure read(l : inout line; value : out real);",
  "  procedure read(l : inout line; value : out string; good : out boolean);",
  "  procedure read(l : inout line; value : out string);",
  "  procedure read(l : inout line; value : out time; good : out boolean);",
  "  procedure read(l : inout line; value : out time);",
  "  procedure sread(l : inout line; value : out string; strlen : out natural);",
  "  procedure oread(l : inout line; value : out bit_vector; good : out boolean);",
  "  procedure oread(l : inout line; value : out bit_vector);",
  "  procedure hread(l : inout line; value : out bit_vector; good : out boolean);",
  "  procedure hread(l : inout line; value : out bit_vector);",
  "  procedure bread(l : inout line; value : out bit_vector);",
  "",
  "  procedure writeline(file f : text; l : inout line);",
  "  procedure tee(file f : text; l : inout line);",
  "  procedure write(l : inout line; value : in bit; justified : in side := right; field : in width := 0);",
  "  procedure write(l : inout line; value : in bit_vector; justified : in side := right; field : in width := 0);",
  "  procedure write(l : inout line; value : in boolean; justified : in side := right; field : in width := 0);",
  "  procedure write(l : inout line; value : in character; justified : in side := right; field : in width := 0);",
  "  procedure write(l : inout line; value : in integer; justified : in side := right; field : in width := 0);",
  "  procedure write(l : inout line; value : in real; justified : in side := right; field : in width := 0; digits : in natural := 0);",
  "  procedure write(l : inout line; value : in string; justified : in side := right; field : in width := 0);",
  "  procedure write(l : inout line; value : in time; justified : in side := right; field : in width := 0; unit : in time := ns);",
  "  procedure swrite(l : inout line; value : in string; justified : in side := right; field : in width := 0);",
  "  procedure owrite(l : inout line; value : in bit_vector; justified : in side := right; field : in width := 0);",
  "  procedure hwrite(l : inout line; value : in bit_vector; justified : in side := right; field : in width := 0);",
  "  procedure bwrite(l : inout line; value : in bit_vector; justified : in side := right; field : in width := 0);",
  "  procedure flush(file f : text);",
  "end package textio;"]

/-- The lines of package std.env. -/
def envLines : List String := [
  "-- Package STD.ENV (IEEE 1076-2008, 16.5).",
  "",
  "package env is",
  "  procedure stop(status : integer);",
  "  procedure stop;",
  "  procedure finish(status : integer);",
  "  procedure finish;",
  "  function resolution_limit return delay_length;",
  "end package env;"]

/-- The lines of package ieee.std_logic_1164. -/
def stdLogic1164Lines : List String := [
  "-- Package IEEE.STD_LOGIC_1164 (IEEE 1164-2008). Declarations only.",
  "",
  "package std_logic_1164 is",
  "  type std_ulogic is (",
  "    'U',  -- uninitialized",
  "    'X',  -- forcing unknown",
  "    '0',  -- forcing 0",
  "    '1',  -- forcing 1",
  "    'Z',  -- high impedance",
  "    'W',  -- weak unknown",
  "    'L',  -- weak 0",
  "    'H',  -- weak 1",
  "    '-'   -- don't care",
  "  );",
  "",
  "  type std_ulogic_vector is array (natural range <>) of std_ulogic;",
  "",
  "  function resolved(s : std_ulogic_vector) return std_ulogic;",
  "",
  "  subtype std_logic is resolved std_ulogic;",
  "  subtype std_logic_vector is (resolved) std_ulogic_vector;",
  "",
  "  subtype x01 is resolved std_ulogic range 'X' to '1';",
  "  subtype x01z is resolved std_ulogic range 'X' to 'Z';",
  "  subtype ux01 is resolved std_ulogic range 'U' to '1';",
  "  subtype ux01z is resolved std_ulogic range 'U' to 'Z';",
  "",
  "  function \"and\"(l : std_ulogic; r : std_ulogic) return ux01;",
  "  function \"nand\"(l : std_ulogic; r : std_ulogic) return ux01;",
  "  function \"or\"(l : std_ulogic; r : std_ulogic) return ux01;",
  "  function \"nor\"(l : std_ulogic; r : std_ulogic) return ux01;",
  "  function \"xor\"(l : std_ulogic; r : std_ulogic) return ux01;",
  "  function \"xnor\"(l : std_ulogic; r : std_ulogic) return ux01;",
  "  function \"not\"(l : std_ulogic) return ux01;",
  "",
  "  function \"sll\"(l : std_ulogic_vector; r : integer) return std_ulogic_vector;",
  "  function \"srl\"(l : std_ulogic_vector; r : integer) return std_ulogic_vector;",
  "  function \"rol\"(l : std_ulogic_vector; r : integer) return std_ulogic_vector;",
  "  function \"ror\"(l : std_ulogic_vector; r : integer) return std_ulogic_vector;",
  "",
  "  function to_bit(s : std_ulogic; xmap : bit := '0') return bit;",
  "  function to_bitvector(s : std_ulogic_vector; xmap : bit := '0') return bit_vector;",
  "  function to_stdulogic(b : bit) return std_ulogic;",
  "  function to_stdlogicvector(b : bit_vector) return std_logic_vector;",
  "  function to_stdulogicvector(b : bit_vector) return std_ulogic_vector;",
  "",
  "  function to_01(s : std_ulogic; xmap : std_ulogic := '0') return std_ulogic;",
  "  function to_x01(s : std_ulogic) return x01;",
  "  function to_x01z(s : std_ulogic) return x01z;",
  "  function to_ux01(s : std_ulogic) return ux01;",
  "",
  "  function rising_edge(signal s : std_ulogic) return boolean;",
  "  function falling_edge(signal s : std_ulogic) return boolean;",
  "",
  "  function is_x(s : std_ulogic) return boolean;",
  "  function is_x(s : std_ulogic_vector) return boolean;",
  "",
  "  function to_string(value : std_ulogic) return string;",
  "  function to_hstring(value : std_ulogic_vector) return string;",
  "  function to_ostring(value : std_ulogic_vector) return string;",
  "end package std_logic_1164;"]

/-- The lines of package ieee.numeric_std. -/
def numericStdLines : List String := [
  "-- Package IEEE.NUMERIC_STD (IEEE 1076-2008, 16.8). Declarations only.",
  "",
  "library ieee;",
  "use ieee.std_logic_1164.all;",
  "",
  "package numeric_std is",
  "  constant CopyRightNotice : string := \"numeric types over arrays of logic values...\";",
  "",
  "  type unresolved_unsigned is array (natural range <>) of std_ulogic;",
  "  type unresolved_signed is array (natural range <>) of std_ulogic;",
  "",
  "  subtype unsigned is (resolved) unresolved_unsigned;",
  "  subtype signed is (resolved) unresolved_signed;",
  "",
  "  function \"abs\"(arg : unresolved_signed) return unresolved_signed;",
  "  function \"-\"(arg : unresolved_signed) return unresolved_signed;",
  "  function \"+\"(l, r : unresolved_unsigned) return unresolved_unsigned;",
  "  function \"-\"(l, r : unresolved_unsigned) return unresolved_unsigned;",
  "  function \"*\"(l, r : unresolved_unsigned) return unresolved_unsigned;",
  "  function \"/\"(l, r : unresolved_unsigned) return unresolved_unsigned;",
  "  function \"rem\"(l, r : unresolved_unsigned) return unresolved_unsigned;",
  "  function \"mod\"(l, r : unresolved_unsigned) return unresolved_unsigned;",
  "",
  "  function find_leftmost(arg : unresolved_unsigned; y : std_ulogic) return integer;",
  "  function find_rightmost(arg : unresolved_unsigned; y : std_ulogic) return integer;",
  "",
  "  function \">\"(l, r : unresolved_unsigned) return boolean;",
  "  function \"<\"(l, r : unresolved_unsigned) return boolean;",
  "  function \"<=\"(l, r : unresolved_unsigned) return boolean;",
  "  function \">=\"(l, r : unresolved_unsigned) return boolean;",
  "  function \"=\"(l, r : unresolved_unsigned) return boolean;",
  "  function \"/=\"(l, r : unresolved_unsigned) return boolean;",
  "  function minimum(l, r : unresolved_unsigned) return unresolved_unsigned;",
  "  function maximum(l, r : unresolved_unsigned) return unresolved_unsigned;",
  "",
  "  function shift_left(arg : unresolved_unsigned; count : natural) return unresolved_unsigned;",
  "  function shift_right(arg : unresolved_unsigned; count : natural) return unresolved_unsigned;",
  "  function rotate_left(arg : unresolved_unsigned; count : natural) return unresolved_unsigned;",
  "  function rotate_right(arg : unresolved_unsigned; count : natural) return unresolved_unsigned;",
  "",
  "  function resize(arg : unresolved_signed; new_size : natural) return unresolved_signed;",
  "  function resize(arg : unresolved_unsigned; new_size : natural) return unresolved_unsigned;",
  "",
  "  function to_integer(arg : unresolved_unsigned) return natural;",
  "  function to_integer(arg : unresolved_signed) return integer;",
  "  function to_unsigned(arg, size : natural) return unresolved_unsigned;",
  "  function to_signed(arg : integer; size : natural) return unresolved_signed;",
  "",
  "  function std_match(l, r : std_ulogic) return boolean;",
  "  function std_match(l, r : std_ulogic_vector) return boolean;",
  "",
  "  function to_01(s : unresolved_unsigned; xmap : std_ulogic := '0') return unresolved_unsigned;",
  "  function to_x01(s : unresolved_unsigned) return unresolved_unsigned;",
  "  function is_x(s : unresolved_unsigned) return boolean;",
  "",
  "  function to_string(value : unresolved_unsigned) return string;",
  "  function to_hstring(value : unresolved_unsigned) return string;",
  "end package numeric_std;"]

/-- The lines of package ieee.math_real. -/
def mathRealLines : List String := [
  "-- Package IEEE.MATH_REAL (IEEE 1076.2). Declarations only.",
  "",
  "package math_real is",
  "  constant math_e : real := 2.71828_18284_59045_23536;",
  "  constant math_1_over_e : real := 0.36787_94411_71442_32160;",
  "  constant math_pi : real := 3.14159_26535_89793_23846;",
  "  constant math_2_pi : real := 6.28318_53071_79586_47693;",
  "  constant math_1_over_pi : real := 0.31830_98861_83790_67154;",
  "  constant math_pi_over_2 : real := 1.57079_63267_94896_61923;",
  "  constant math_pi_over_3 : real := 1.04719_75511_96597_74615;",
  "  constant math_pi_over_4 : real := 0.78539_81633_97448_30962;",
  "  constant math_3_pi_over_2 : real := 4.71238_89803_84689_85769;",
  "  constant math_log_of_2 : real := 0.69314_71805_59945_30942;",
  "  constant math_log_of_10 : real := 2.30258_50929_94045_68402;",
  "  constant math_log2_of_e : real := 1.44269_50408_88963_4074;",
  "  constant math_log10_of_e : real := 0.43429_44819_03251_82765;",
  "  constant math_sqrt_2 : real := 1.41421_35623_73095_04880;",
  "  constant math_1_over_sqrt_2 : real := 0.70710_67811_86547_52440;",
  "  constant math_sqrt_pi : real := 1.77245_38509_05516_02730;",
  "  constant math_deg_to_rad : real := 0.01745_32925_19943_29577;",
  "  constant math_rad_to_deg : real := 57.29577_95130_82320_87680;",
  "",
  "  function sign(x : in real) return real;",
  "  function ceil(x : in real) return real;",
  "  function floor(x : in real) return real;",
  "  function round(x : in real) return real;",
  "  function trunc(x : in real) return real;",
  "  function \"mod\"(x, y : in real) return real;",
  "  function realmax(x, y : in real) return real;",
  "  function realmin(x, y : in real) return real;",
  "",
  "  procedure uniform(variable seed1, seed2 : inout positive; variable x : out real);",
  "",
  "  function sqrt(x : in real) return real;",
  "  function cbrt(x : in real) return real;",
  "  function \"**\"(x : in integer; y : in real) return real;",
  "  function \"**\"(x : in real; y : in real) return real;",
  "  function exp(x : in real) return real;",
  "  function log(x : in real) return real;",
  "  function log2(x : in real) return real;",
  "  function log10(x : in real) return real;",
  "  function log(x : in real; base : in real) return real;",
  "  function sin(x : in real) return real;",
  "  function cos(x : in real) return real;",
  "  function tan(x : in real) return real;",
  "  function arcsin(x : in real) return real;",
  "  function arccos(x : in real) return real;",
  "  function arctan(y : in real) return real;",
  "  function arctan(y : in real; x : in real) return real;",
  "  function sinh(x : in real) return real;",
  "  function cosh(x : in real) return real;",
  "  function tanh(x : in real) return real;",
  "  function arcsinh(x : in real) return real;",
  "  function arccosh(x : in real) return real;",
  "  function arctanh(x : in real) return real;",
  "end package math_real;"]

/-- The lines of package ieee.std_logic_arith. -/
def stdLogicArithLines : List String := [
  "-- Package IEEE.STD_LOGIC_ARITH (Synopsys). Declarations only.",
  "",
  "library ieee;",
  "use ieee.std_logic_1164.all;",
  "",
  "package std_logic_arith is",
  "  type unsigned is array (natural range <>) of std_logic;",
  "  type signed is array (natural range <>) of std_logic;",
  "  subtype small_int is integer range 0 to 1;",
  "",
  "  function conv_integer(arg : integer) return integer;",
  "  function conv_integer(arg : unsigned) return integer;",
  "  function conv_integer(arg : signed) return integer;",
  "  function conv_unsigned(arg : integer; size : integer) return unsigned;",
  "  function conv_signed(arg : integer; size : integer) return signed;",
  "  function conv_std_logic_vector(arg : integer; size : integer) return std_logic_vector;",
  "  function ext(arg : std_logic_vector; size : integer) return std_logic_vector;",
  "  function sxt(arg : std_logic_vector; size : integer) return std_logic_vector;",
  "  function shl(arg : unsigned; count : unsigned) return unsigned;",
  "  function shr(arg : unsigned; count : unsigned) return unsigned;",
  "end package std_logic_arith;"]

/-- The lines of package ieee.std_logic_unsigned. -/
def stdLogicUnsignedLines : List String := [
  "-- Package IEEE.STD_LOGIC_UNSIGNED (Synopsys). Declarations only.",
  "",
  "library ieee;",
  "use ieee.std_logic_1164.all;",
  "use ieee.std_logic_arith.all;",
  "",
  "package std_logic_unsigned is",
  "  function \"+\"(l : std_logic_vector; r : std_logic_vector) return std_logic_vector;",
  "  function \"-\"(l : std_logic_vector; r : std_logic_vector) return std_logic_vector;",
  "  function \"*\"(l : std_logic_vector; r : std_logic_vector) return std_logic_vector;",
  "  function \"<\"(l : std_logic_vector; r : std_logic_vector) return boolean;",
  "  function \"=\"(l : std_logic_vector; r : std_logic_vector) return boolean;",
  "  function shl(arg : std_logic_vector; count : std_logic_vector) return std_logic_vector;",
  "  function shr(arg : std_logic_vector; count : std_logic_vector) return std_logic_vector;",
  "  function conv_integer(arg : std_logic_vector) return integer;",
  "end package std_logic_unsigned;"]

/-- The predeclared packages: library, file and lines. -/
def sources : List (String × String × List String) := [
  ("std", "standard.vhd", standardLines),
  ("std", "textio.vhd", textioLines),
  ("std", "env.vhd", envLines),
  ("ieee", "std_logic_1164.vhd", stdLogic1164Lines),
  ("ieee", "numeric_std.vhd", numericStdLines),
  ("ieee", "math_real.vhd", mathRealLines),
  ("ieee", "std_logic_arith.vhd", stdLogicArithLines),
  ("ieee", "std_logic_unsigned.vhd", stdLogicUnsignedLines)]

end DesignLint.Standard
