import CommandWords.Unicode.Property

/-!
# `CommandWords.Unicode.Age` — the versions in which characters came up

## Contents
- `age`: the property, its values in the order of the versions.
- `ageNamed?`: the characters of a version, with those of all versions before it.
-/

namespace CommandWords.Unicode

/-- The version of the standard in which a code point was assigned. -/
def age : Valued where
  names := "Age"
  values :=
    "V1_1 1.1, V2_0 2.0, V2_1 2.1, V3_0 3.0, V3_1 3.1, V3_2 3.2, V4_0 4.0, V4_1 4.1, V5_0 5.0, V5_1 5.1,
     V5_2 5.2, V6_0 6.0, V6_1 6.1, V6_2 6.2, V6_3 6.3, V7_0 7.0, V8_0 8.0, V9_0 9.0, V10_0 10.0, V11_0
     11.0, V12_0 12.0, V12_1 12.1, V13_0 13.0, V14_0 14.0, V15_0 15.0, V15_1 15.1, V16_0 16.0"
  runs :=
    "502V1_1 4V3_0 30V1_1 8V3_0 1V3_2 1V4_0 18V3_0 3V4_0 11V4_1 14V5_0 89V1_1 5V3_0 2V4_0 47V1_1 1V3_0
     10V1_1 5V3_0 17V4_0 70V1_1 9V3_0 1V3_2 8V4_0 5V4_1 3V4_0 2V1_1 1V3_0 13V3_2 4V5_1 2V1_1 2V5_1 2NA
     1V1_1 3V5_0 1V1_1 1V7_0 4NA 7V1_1 1NA 1V1_1 1NA 20V1_1 1NA 44V1_1 1V5_1 7V1_1 1V3_0 2V3_2 1V1_1
     1V3_0 1V1_1 1V3_0 1V1_1 1V3_0 1V1_1 1V3_0 18V1_1 2V3_1 1V3_2 5V4_0 4V4_1 1V3_0 12V1_1 1V3_0 66V1_1
     1V3_0 12V1_1 1V3_0 41V1_1 1V5_1 2V3_0 2V3_2 4V3_0 53V1_1 2V3_2 2V1_1 2V3_2 2V1_1 2V3_2 1V5_0 28V1_1
     2V3_0 8V1_1 2V4_1 2V1_1 6V5_0 16V3_2 4V5_0 16V5_1 2V5_2 2V6_0 8V7_0 1NA 38V1_1 2NA 7V1_1 1V11_0
     39V1_1 1V11_0 1V1_1 1V3_0 2NA 2V7_0 1V6_1 1NA 17V2_0 1V4_1 13V2_0 10V1_1 1V5_0 9V1_1 1V2_0 3V4_1 8NA
     27V1_1 4NA 1V11_0 5V1_1 11NA 4V4_0 1V6_1 1V7_0 5V5_1 1V4_1 1V1_1 9V4_0 5V5_1 1V1_1 1V6_3 1V14_0
     1V4_1 1V1_1 1V6_0 26V1_1 5V5_1 19V1_1 3V3_0 3V4_0 6V4_1 1V6_0 14V1_1 2V3_2 72V1_1 2V3_0 5V1_1 1V3_0
     15V1_1 1V3_0 30V1_1 2V4_0 10V1_1 5V3_0 1V4_0 14V3_0 1NA 30V3_0 3V4_0 27V3_0 2NA 3V4_0 30V4_1 18V5_1
     49V3_0 1V3_2 14NA 59V5_0 2NA 3V11_0 46V5_2 2NA 15V5_2 1NA 28V6_0 2NA 1V6_0 1NA 11V10_0 5NA 31V14_0
     1NA 2V14_0 5NA 1V16_0 8V14_0 1V6_1 1V7_0 11V6_1 6V7_0 2V8_0 1V14_0 8V9_0 10V13_0 11V14_0 1V11_0
     15V9_0 1V8_0 27V6_1 1V7_0 1V5_2 3V1_1 1V4_0 53V1_1 2V6_0 18V1_1 1V5_2 1V6_0 5V1_1 1V5_2 2V6_0 25V1_1
     2V5_1 5V6_0 1V7_0 2V5_2 2V5_0 1V4_1 2V5_0 1V7_0 3V1_1 1NA 8V1_1 2NA 2V1_1 2NA 22V1_1 1NA 7V1_1 1NA
     1V1_1 3NA 4V1_1 2NA 1V1_1 1V4_0 7V1_1 2NA 2V1_1 2NA 3V1_1 1V4_1 8NA 1V1_1 4NA 2V1_1 1NA 5V1_1 2NA
     21V1_1 1V5_2 2V10_0 1V11_0 2NA 1V4_0 1V1_1 1V4_0 1NA 6V1_1 4NA 2V1_1 2NA 22V1_1 1NA 7V1_1 1NA 2V1_1
     1NA 2V1_1 1NA 2V1_1 2NA 1V1_1 1NA 5V1_1 4NA 2V1_1 2NA 3V1_1 3NA 1V5_1 7NA 4V1_1 1NA 1V1_1 7NA 15V1_1
     1V5_1 1V11_0 10NA 3V1_1 1NA 7V1_1 1V4_0 1V1_1 1NA 3V1_1 1NA 22V1_1 1NA 7V1_1 1NA 2V1_1 1NA 5V1_1 2NA
     10V1_1 1NA 3V1_1 1NA 3V1_1 2NA 1V1_1 15NA 1V1_1 3V4_0 2NA 10V1_1 1V6_1 1V4_0 7NA 1V8_0 6V10_0 1NA
     3V1_1 1NA 8V1_1 2NA 2V1_1 2NA 22V1_1 1NA 7V1_1 1NA 2V1_1 1NA 1V4_0 4V1_1 2NA 8V1_1 1V5_1 2NA 2V1_1
     2NA 3V1_1 7NA 1V13_0 2V1_1 4NA 2V1_1 1NA 3V1_1 2V5_1 2NA 11V1_1 1V4_0 6V6_0 10NA 2V1_1 1NA 6V1_1 3NA
     3V1_1 1NA 4V1_1 3NA 2V1_1 1NA 1V1_1 1NA 2V1_1 3NA 2V1_1 3NA 3V1_1 3NA 8V1_1 1V4_1 3V1_1 4NA 5V1_1
     3NA 3V1_1 1NA 4V1_1 2NA 1V5_1 6NA 1V1_1 14NA 1V4_1 12V1_1 8V4_0 5NA 1V7_0 3V1_1 1V11_0 8V1_1 1NA
     3V1_1 1NA 23V1_1 1NA 10V1_1 1V7_0 5V1_1 2NA 1V14_0 1V5_1 7V1_1 1NA 3V1_1 1NA 4V1_1 7NA 2V1_1 1NA
     2V5_1 1V8_0 2NA 1V14_0 2NA 2V1_1 2V5_1 2NA 10V1_1 7NA 1V12_0 8V5_1 1V9_0 1V7_0 2V1_1 1V11_0 8V1_1
     1NA 3V1_1 1NA 23V1_1 1NA 10V1_1 1NA 5V1_1 2NA 2V4_0 7V1_1 1NA 3V1_1 1NA 4V1_1 7NA 2V1_1 6NA 1V14_0
     1V1_1 1NA 2V1_1 2V5_0 2NA 10V1_1 1NA 2V5_0 1V15_0 12NA 1V10_0 1V7_0 2V1_1 1V13_0 8V1_1 1NA 3V1_1 1NA
     23V1_1 1V6_0 16V1_1 1V6_0 2V10_0 1V5_1 6V1_1 1V5_1 1NA 3V1_1 1NA 4V1_1 1V6_0 1V9_0 4NA 3V9_0 1V1_1
     7V9_0 1V8_0 2V1_1 2V5_1 2NA 10V1_1 6V5_1 3V9_0 7V5_1 1NA 1V13_0 2V3_0 1NA 18V3_0 3NA 24V3_0 1NA
     9V3_0 1NA 1V3_0 2NA 7V3_0 3NA 1V3_0 4NA 6V3_0 1NA 1V3_0 1NA 8V3_0 6NA 10V7_0 2NA 3V3_0 12NA 58V1_1
     4NA 29V1_1 37NA 2V1_1 1NA 1V1_1 1NA 1V12_0 2V1_1 1V12_0 1V1_1 1NA 1V12_0 1V1_1 6V12_0 4V1_1 1V12_0
     7V1_1 1V12_0 3V1_1 1NA 1V1_1 1NA 1V1_1 2V12_0 2V1_1 1V12_0 13V1_1 1V12_0 3V1_1 2NA 5V1_1 1NA 1V1_1
     1NA 6V1_1 1V15_0 1NA 10V1_1 2NA 2V1_1 2V6_1 32NA 72V2_0 1NA 33V2_0 1V3_0 2V5_1 4NA 27V2_0 4V6_0
     6V2_0 1V3_0 1V2_0 1NA 21V2_0 3V3_0 7V2_0 1V3_0 1V2_0 3V3_0 1NA 15V3_0 1NA 1V5_1 1V3_0 2V4_1 3V5_1
     4V5_2 2V6_0 37NA 34V3_0 1V5_1 5V3_0 1V5_1 2V3_0 1V5_1 7V3_0 3V5_1 4V3_0 6V5_1 26V3_0 64V5_1 4V5_2
     2V5_1 38V1_1 1NA 1V6_1 5NA 1V6_1 2NA 39V1_1 2V3_2 2V4_1 1V1_1 1V4_1 3V6_1 90V1_1 5V5_2 68V1_1 5V5_2
     82V1_1 6V5_2 7V3_0 1V4_1 63V3_0 1V4_1 1V3_0 1NA 4V3_0 2NA 7V3_0 1NA 1V3_0 1NA 4V3_0 2NA 39V3_0 1V4_1
     1V3_0 1NA 4V3_0 2NA 31V3_0 1V4_1 1V3_0 1NA 4V3_0 2NA 7V3_0 1NA 1V3_0 1NA 4V3_0 2NA 7V3_0 1V4_1 7V3_0
     1NA 23V3_0 1V4_1 31V3_0 1V4_1 1V3_0 1NA 4V3_0 2NA 7V3_0 1V4_1 39V3_0 1V4_1 19V3_0 2NA 2V6_0 2V4_1
     28V3_0 3NA 26V4_1 6NA 85V3_0 1V8_0 2NA 6V8_0 2NA 1V5_2 630V3_0 9V5_2 29V3_0 3NA 81V3_0 8V7_0 7NA
     13V3_2 1V14_0 7V3_2 1V14_0 9NA 1V14_0 23V3_2 9NA 20V3_2 12NA 13V3_2 1NA 3V3_2 1NA 2V3_2 12NA 93V3_0
     1V4_0 2NA 10V3_0 6NA 10V4_0 6NA 15V3_0 1V14_0 10V3_0 6NA 88V3_0 1V11_0 7NA 42V3_0 1V5_1 5NA 70V5_2
     10NA 29V4_0 2V7_0 1NA 12V4_0 4NA 12V4_0 4NA 1V4_0 3NA 42V4_0 2NA 5V4_0 11NA 42V4_1 2V5_2 4NA 26V4_1
     6NA 10V4_1 1V5_2 3NA 2V4_1 32V4_0 28V4_1 2NA 2V4_1 63V5_2 1NA 29V5_2 2NA 11V5_2 6NA 10V5_2 6NA
     14V5_2 2NA 15V7_0 2V13_0 14V14_0 49NA 76V5_0 1V14_0 1NA 2V16_0 45V5_0 2V14_0 1V16_0 43V5_1 3V6_1
     12V5_1 6V6_1 52V6_0 8NA 4V6_0 56V5_1 3NA 15V5_1 3NA 51V5_1 9V9_0 2V16_0 5NA 43V11_0 2NA 3V11_0 8V6_1
     8NA 35V5_2 4V6_1 1V10_0 2V7_0 1V12_0 5NA 108V4_0 88V4_1 7V5_0 28V5_1 15V7_0 4V10_0 1V14_0 1V9_0
     1V6_0 1V5_2 2V5_0 155V1_1 1V2_0 4V5_1 90V1_1 6V5_1 22V1_1 2NA 6V1_1 2NA 38V1_1 2NA 6V1_1 2NA 8V1_1
     1NA 1V1_1 1NA 1V1_1 1NA 1V1_1 1NA 31V1_1 2NA 53V1_1 1NA 15V1_1 1NA 14V1_1 2NA 6V1_1 1NA 19V1_1 2NA
     3V1_1 1NA 9V1_1 1NA 47V1_1 1V3_0 23V1_1 1V3_2 6V3_0 5V3_2 2V4_0 2V4_1 1V3_2 7V4_1 5V3_2 1V5_1 1NA
     4V6_3 7V1_1 1V3_2 2NA 27V1_1 1NA 5V4_1 8V6_0 3NA 11V1_1 1V2_0 1V2_1 3V3_0 2V3_2 4V4_1 3V5_2 1V6_0
     1V6_2 3V7_0 1V8_0 1V10_0 1V14_0 15NA 18V1_1 2V3_0 7V3_2 1V4_1 4V5_0 1V5_1 15NA 57V1_1 2V3_0 1V4_0
     1V4_1 15V3_2 1V4_1 2V5_0 1V5_1 3V5_2 48V1_1 1V3_0 1V5_0 4V5_1 1V5_2 2V8_0 4NA 91V1_1 9V3_0 12V3_2
     242V1_1 14V3_2 1V1_1 1V3_0 121V1_1 1V3_0 1V3_2 30V3_0 52V3_2 2V4_0 11V4_1 12V5_0 1V5_2 11V6_0 7V7_0
     4V9_0 1V10_0 37V1_1 2V3_0 3V16_0 22NA 11V1_1 21NA 139V1_1 20V3_2 1V4_0 150V1_1 10V3_2 80V1_1 8V3_0
     8V3_2 20V1_1 2V4_0 2V3_2 1V4_1 1V3_0 86V1_1 2V3_0 12V3_2 2V4_1 10V3_2 8V4_0 11V4_1 1V5_1 2V5_2 2V4_0
     16V4_1 1V5_0 10V5_1 3V5_2 4V5_1 10V5_2 1V6_0 19V5_2 1V6_0 1V5_2 4V6_0 24V5_2 1V7_0 4V1_1 1V6_0 4V1_1
     2V6_0 28V1_1 1V6_0 35V1_1 1V6_0 1V1_1 1V6_0 4V1_1 3V6_0 1V1_1 1V5_2 7V1_1 2V6_0 7V1_1 14V3_2 31V1_1
     3V6_0 24V1_1 1V6_0 14V1_1 1V6_0 7V4_1 4V5_0 1V6_1 1V5_1 1V6_1 2V6_0 28V3_2 4V5_1 16V3_2 256V3_0
     512V3_2 14V4_0 6V4_1 7V5_0 5V5_1 4V5_0 41V5_1 3V7_0 5V5_1 5V5_2 26V7_0 2NA 32V7_0 1NA 1V13_0 34V7_0
     3V11_0 12V7_0 1V12_0 8V7_0 1V10_0 25V11_0 4V8_0 15V11_0 1V12_0 47V4_1 1V14_0 47V4_1 1V14_0 13V5_0
     3V5_1 1V5_2 3V5_1 4V5_0 6V5_1 2V5_2 107V4_1 7V5_2 2V6_1 5NA 45V4_1 1NA 1V6_1 5NA 1V6_1 2NA 54V4_1
     2V6_1 7NA 1V4_1 1V6_0 14NA 1V6_0 23V4_1 9NA 7V4_1 1NA 7V4_1 1NA 7V4_1 1NA 7V4_1 1NA 7V4_1 1NA 7V4_1
     1NA 7V4_1 1NA 7V4_1 1NA 32V5_1 24V4_1 4V5_1 2V4_1 19V5_1 1V5_2 10V6_1 7V7_0 2V9_0 5V10_0 5V11_0
     1V12_0 3V13_0 11V14_0 34NA 26V3_0 1NA 89V3_0 12NA 214V3_0 26NA 12V3_0 4V15_1 56V1_1 3V3_0 3V3_2
     1V3_0 1V1_1 1NA 84V1_1 2V3_2 2NA 6V1_1 2V3_2 94V1_1 1V3_2 5NA 40V1_1 1V5_1 1V10_0 1V11_0 1NA 94V1_1
     1NA 16V1_1 24V3_0 3V6_0 5V13_0 16V4_1 20V5_1 2V16_0 9NA 1V15_1 16V3_2 29V1_1 2V4_0 1NA 36V1_1 12V5_2
     1V4_0 15V3_2 28V1_1 2V4_0 1V4_1 50V1_1 15V3_2 12V1_1 4V4_0 47V1_1 1V12_1 119V1_1 4V4_0 99V1_1 2V4_0
     31V1_1 1V4_0 6582V3_0 10V13_0 64V4_0 20902V1_1 22V4_1 8V5_1 8V5_2 1V6_1 9V8_0 21V10_0 5V11_0 13V13_0
     3V14_0 1165V3_0 3NA 18V3_0 2V3_2 16V3_0 1V3_2 12V3_0 1V3_2 3V3_0 1V3_2 1V3_0 9NA 48V5_2 300V5_1 20NA
     32V5_1 2V6_0 18V5_1 8V6_1 28V5_1 6V7_0 1V8_0 1V6_1 88V5_2 8NA 23V4_1 4V5_0 5V5_1 2V5_0 107V5_1 2V6_0
     1V8_0 2V6_0 2V6_1 12V7_0 10V6_0 1V6_1 3V7_0 1V9_0 1V11_0 2V7_0 6V8_0 2V11_0 6V12_0 2V14_0 5V12_0
     4V13_0 3V16_0 2NA 2V14_0 1NA 1V14_0 1NA 5V14_0 3V16_0 21NA 3V14_0 2V13_0 1V7_0 2V6_1 1V6_0 5V5_1
     44V4_1 1V13_0 3NA 10V5_2 6NA 56V5_0 8NA 69V5_1 1V9_0 8NA 12V5_1 6NA 28V5_2 2V8_0 2V11_0 84V5_1 11NA
     1V5_1 29V5_2 3NA 78V5_2 1NA 11V5_2 4NA 2V5_2 31V7_0 1NA 55V5_1 9NA 14V5_1 2NA 10V5_1 2NA 4V5_1
     28V5_2 4V7_0 67V5_2 24NA 5V5_2 23V6_1 10NA 6V6_0 2NA 6V6_0 2NA 6V6_0 9NA 7V6_0 1NA 7V6_0 1NA 48V7_0
     4V8_0 2V7_0 2V12_0 4V13_0 4NA 80V8_0 46V5_2 2NA 10V5_2 6NA 11172V2_0 12NA 23V5_2 4NA 49V5_2 2052NA
     6702V1_1 2V6_1 59V3_2 3V5_2 2NA 106V4_1 38NA 7V1_1 12NA 5V1_1 5NA 1V3_0 25V1_1 1NA 5V1_1 1NA 1V1_1
     1NA 2V1_1 1NA 2V1_1 1NA 108V1_1 16V6_0 1V14_0 16NA 365V1_1 16V14_0 64V1_1 2NA 54V1_1 7NA 1V14_0
     32V3_1 12V1_1 1V3_2 1V4_0 2V14_0 16V3_2 10V4_1 6NA 4V1_1 3V5_1 7V7_0 2V8_0 21V1_1 2V3_2 2V4_0 10V1_1
     1NA 19V1_1 1NA 4V1_1 4NA 3V1_1 1V3_2 1V1_1 1NA 135V1_1 2NA 1V1_1 1NA 94V1_1 2V3_2 94V1_1 3NA 6V1_1
     2NA 6V1_1 2NA 6V1_1 2NA 3V1_1 3NA 7V1_1 1NA 7V1_1 10NA 3V3_0 1V2_1 3V1_1 12V4_0 1NA 26V4_0 1NA
     19V4_0 1NA 2V4_0 1NA 15V4_0 2NA 14V4_0 34NA 123V4_0 5NA 3V4_0 4NA 45V4_0 3NA 9V4_0 75V4_1 2V7_0
     2V9_0 1NA 12V5_1 1V13_0 3NA 1V7_0 47NA 46V5_1 130NA 29V5_1 3NA 49V5_1 15NA 28V7_0 4NA 31V3_1 1V7_0
     4V3_1 9NA 3V10_0 27V3_1 5NA 43V7_0 5NA 30V4_0 1NA 1V4_0 36V4_1 4NA 14V4_1 42NA 38V3_1 2V4_0 38V3_1
     80V4_0 2NA 10V4_0 6NA 36V9_0 4NA 36V9_0 4NA 40V7_0 8NA 52V7_0 11NA 1V7_0 11V14_0 1NA 15V14_0 1NA
     7V14_0 1NA 2V14_0 1NA 11V14_0 1NA 15V14_0 1NA 7V14_0 1NA 2V14_0 3NA 52V16_0 12NA 311V7_0 9NA 22V7_0
     10NA 8V7_0 24NA 6V14_0 1NA 42V14_0 1NA 9V14_0 69NA 6V4_0 2NA 1V4_0 1NA 44V4_0 1NA 2V4_0 3NA 1V4_0
     2NA 1V4_0 22V5_2 1NA 9V5_2 63V7_0 8NA 9V7_0 48NA 19V8_0 1NA 2V8_0 5NA 5V8_0 26V5_0 2V5_2 3NA 1V5_0
     26V5_1 5NA 1V5_1 64NA 56V6_1 4NA 2V8_0 2V6_1 16V8_0 2NA 46V8_0 4V4_1 1NA 2V4_1 5NA 8V4_1 1NA 3V4_1
     1NA 27V4_1 2V11_0 2NA 3V4_1 4NA 9V4_1 1V11_0 7NA 9V4_1 7NA 32V5_2 32V7_0 32NA 39V7_0 4NA 12V7_0 9NA
     54V5_2 3NA 29V5_2 2NA 27V5_2 5NA 8V5_2 18V7_0 7NA 4V7_0 12NA 7V7_0 80NA 73V5_2 55NA 51V8_0 13NA
     51V8_0 7NA 6V8_0 40V11_0 8NA 10V11_0 6NA 38V16_0 3NA 29V16_0 8NA 2V16_0 208NA 31V5_2 1NA 42V13_0 1NA
     3V13_0 2NA 2V13_0 16NA 3V16_0 55NA 1V16_0 3V15_0 40V11_0 8NA 42V11_0 22NA 26V14_0 38NA 28V13_0 20NA
     23V12_0 9NA 78V6_0 4NA 30V6_0 6V14_0 9NA 1V7_0 66V5_2 1V14_0 10NA 1V11_0 2NA 25V6_1 7NA 10V6_1 6NA
     53V6_1 1NA 14V6_1 3V11_0 1V13_0 8NA 39V7_0 9NA 73V6_1 4V8_0 1V7_0 2V13_0 10V6_1 1V7_0 5V8_0 1NA
     20V7_0 11NA 18V7_0 1NA 43V7_0 1V9_0 3V15_0 62NA 7V8_0 1NA 1V8_0 1NA 4V8_0 1NA 15V8_0 1NA 11V8_0 6NA
     59V7_0 5NA 10V7_0 6NA 1V8_0 3V7_0 1NA 8V7_0 2NA 2V7_0 2NA 22V7_0 1NA 7V7_0 1NA 2V7_0 1NA 5V7_0 1NA
     1V11_0 9V7_0 2NA 2V7_0 2NA 3V7_0 2NA 1V8_0 6NA 1V7_0 5NA 7V7_0 2NA 7V7_0 3NA 5V7_0 11NA 10V16_0 1NA
     1V16_0 2NA 1V16_0 1NA 38V16_0 1NA 10V16_0 1NA 1V16_0 2NA 1V16_0 1NA 4V16_0 1NA 10V16_0 1NA 2V16_0
     8NA 2V16_0 29NA 90V9_0 1V13_0 1V9_0 1NA 1V9_0 1V11_0 1V12_0 2V13_0 30NA 72V7_0 8NA 10V7_0 166NA
     54V7_0 2NA 18V7_0 20V8_0 34NA 69V7_0 11NA 10V7_0 6NA 13V9_0 19NA 56V6_1 1V12_0 1V14_0 6NA 10V6_1 6NA
     20V16_0 28NA 26V8_0 1V11_0 2NA 15V8_0 4NA 16V8_0 7V14_0 185NA 60V11_0 100NA 83V7_0 12NA 1V7_0 7V13_0
     2NA 1V13_0 2NA 8V13_0 1NA 2V13_0 1NA 30V13_0 1NA 2V13_0 2NA 12V13_0 9NA 10V13_0 70NA 8V12_0 2NA
     46V12_0 2NA 11V12_0 27NA 72V10_0 8NA 52V10_0 2V12_0 23V10_0 1V11_0 5V10_0 13NA 16V14_0 57V7_0 7NA
     10V15_0 182NA 34V16_0 14NA 10V16_0 6NA 9V9_0 1NA 45V9_0 1NA 14V9_0 10NA 29V9_0 3NA 32V9_0 2NA 22V9_0
     1NA 14V9_0 73NA 7V10_0 1NA 2V10_0 1NA 44V10_0 3NA 1V10_0 1NA 2V10_0 1NA 9V10_0 8NA 10V10_0 6NA
     6V11_0 1NA 2V11_0 1NA 37V11_0 1NA 2V11_0 1NA 6V11_0 7NA 10V11_0 310NA 25V11_0 7NA 17V15_0 1NA
     41V15_0 3NA 28V15_0 1V16_0 85NA 1V13_0 15NA 50V12_0 13NA 1V12_0 879V5_0 42V7_0 1V8_0 102NA 99V5_0
     12V7_0 1NA 4V5_0 1V7_0 11NA 196V8_0 2636NA 99V14_0 13NA 1071V5_2 1V15_0 9V12_0 29V15_0 10NA
     3995V16_0 5NA 583V8_0 6841NA 58V16_0 1734NA 569V6_0 7NA 31V7_0 1NA 10V7_0 4NA 2V7_0 79V14_0 1NA
     10V14_0 6NA 30V7_0 2NA 6V7_0 10NA 70V7_0 10NA 10V7_0 1NA 7V7_0 1NA 21V7_0 5NA 19V7_0 432NA 58V16_0
     198NA 91V11_0 101NA 69V6_1 6V12_0 4NA 1V12_0 47V6_1 9V12_0 7NA 17V6_1 64NA 1V9_0 1V10_0 2V12_0
     1V13_0 11NA 2V13_0 14NA 6125V9_0 5V11_0 6V12_0 8NA 755V9_0 483V13_0 41NA 1V16_0 9V13_0 8935NA 4V14_0
     1NA 7V14_0 1NA 2V14_0 1NA 2V6_0 285V10_0 4V14_0 15NA 1V15_0 29NA 3V12_0 2NA 1V15_0 14NA 4V12_0 8NA
     396V10_0 2308NA 107V7_0 5NA 13V7_0 3NA 9V7_0 7NA 10V7_0 2NA 8V7_0 3932NA 250V16_0 6NA 436V16_0 76NA
     46V14_0 2NA 23V14_0 9NA 116V14_0 60NA 246V3_1 10NA 39V3_1 2NA 1V5_1 180V3_1 11V8_0 2V14_0 21NA
     70V4_1 122NA 20V15_0 12NA 20V11_0 12NA 87V4_0 9NA 18V5_0 7V11_0 135NA 85V3_1 1NA 71V3_1 1NA 2V3_1
     2NA 1V3_1 2NA 2V3_1 2NA 4V3_1 1NA 12V3_1 1NA 1V3_1 1NA 4V3_1 1V4_0 2V3_1 1NA 65V3_1 1NA 4V3_1 2NA
     8V3_1 1NA 7V3_1 1NA 28V3_1 1NA 4V3_1 1NA 5V3_1 1NA 1V3_1 3NA 7V3_1 1NA 338V3_1 2V4_1 2NA 290V3_1
     2V5_0 2NA 50V3_1 652V8_0 15NA 5V8_0 1NA 15V8_0 1104NA 31V14_0 6NA 6V15_0 213NA 7V9_0 1NA 17V9_0 2NA
     7V9_0 1NA 2V9_0 1NA 5V9_0 5NA 62V15_0 33NA 1V15_0 112NA 45V12_0 3NA 14V12_0 2NA 10V12_0 4NA 2V12_0
     320NA 31V14_0 17NA 58V12_0 5NA 1V12_0 464NA 42V15_0 214NA 43V16_0 4NA 1V16_0 480NA 7V14_0 1NA 4V14_0
     1NA 2V14_0 1NA 15V14_0 1NA 197V7_0 2NA 16V7_0 41NA 75V9_0 1V12_0 4NA 10V9_0 4NA 2V9_0 785NA 68V11_0
     76NA 61V12_0 194NA 4V6_1 1NA 27V6_1 1NA 2V6_1 1NA 1V6_1 2NA 1V6_1 1NA 10V6_1 1NA 4V6_1 1NA 1V6_1 1NA
     1V6_1 6NA 1V6_1 4NA 1V6_1 1NA 1V6_1 1NA 1V6_1 1NA 3V6_1 1NA 2V6_1 1NA 1V6_1 2NA 1V6_1 1NA 1V6_1 1NA
     1V6_1 1NA 1V6_1 1NA 1V6_1 1NA 2V6_1 1NA 1V6_1 2NA 4V6_1 1NA 7V6_1 1NA 4V6_1 1NA 4V6_1 1NA 1V6_1 1NA
     10V6_1 1NA 17V6_1 5NA 3V6_1 1NA 5V6_1 1NA 17V6_1 52NA 2V6_1 270NA 44V5_1 4NA 100V5_1 12NA 15V6_0 2NA
     14V6_0 1V7_0 1NA 15V6_0 1NA 15V6_0 22V7_0 10NA 11V5_2 2V7_0 3V13_0 31V5_2 1V11_0 1V6_0 1V5_2 11V6_0
     1V5_2 1V6_0 1V5_2 2V6_0 1V5_2 3V6_0 1V5_2 3V6_0 5V5_2 8V6_0 1V5_2 7V6_0 1V5_2 10V6_0 2V6_1 1V12_0
     3V13_0 9V6_0 1V5_2 1V6_0 2V5_2 2V6_0 1V5_2 10V6_0 4V5_2 2V6_0 1V5_2 10V6_0 18V9_0 1V13_0 56NA 26V6_0
     1V5_2 2V6_0 13NA 34V5_2 9V6_0 1V9_0 4NA 9V5_2 7NA 2V6_0 14NA 6V10_0 154NA 33V6_0 12V7_0 3V8_0 6V6_0
     1V7_0 70V6_0 1V7_0 2V8_0 20V6_0 12V7_0 37V6_0 1V7_0 5V6_0 4V7_0 5V8_0 12V7_0 17V6_0 7V7_0 8V8_0
     63V6_0 1V7_0 1V6_0 1V7_0 182V6_0 1V7_0 4V6_0 2V7_0 1V8_0 62V6_0 2V7_0 4V6_1 7V7_0 5V8_0 24V6_0
     18V7_0 1V9_0 41V7_0 1V9_0 86V7_0 5V6_0 1V6_1 16V6_0 1V6_1 3V6_0 1V6_1 1V6_0 1V6_1 1V6_0 1V6_1 1V6_0
     1V6_1 3V6_0 1V6_1 6V6_0 2V6_1 4V6_0 1V6_1 1V6_0 2V6_1 4V6_0 1V6_1 12V6_0 2V7_0 2V8_0 11V6_0 48V7_0
     70V6_0 10V7_0 1V8_0 2V9_0 2V10_0 1V12_0 2V13_0 4NA 1V15_0 3V14_0 13V7_0 3NA 4V7_0 3V9_0 2V10_0
     1V11_0 1V12_0 2V13_0 3NA 116V6_0 3V15_0 4NA 5V15_0 85V7_0 4V11_0 1V15_0 6NA 12V12_0 4NA 1V14_0 15NA
     12V7_0 4NA 56V7_0 8NA 10V7_0 6NA 40V7_0 8NA 30V7_0 2NA 2V13_0 10V16_0 4NA 2V16_0 62NA 12V10_0 1V13_0
     3V12_0 9V8_0 6V9_0 1V10_0 8V9_0 8V10_0 1V9_0 2V10_0 12V9_0 1V12_0 12V9_0 1V10_0 3V11_0 15V9_0
     13V10_0 5V11_0 1V12_0 1V13_0 4V11_0 2V13_0 1V14_0 1V11_0 1V12_0 4V11_0 5V8_0 13V9_0 6V10_0 11V11_0
     2V13_0 6V12_0 3V13_0 2V12_0 10V11_0 6V12_0 1V8_0 2V11_0 8V12_0 1V13_0 1V14_0 3V12_0 23V10_0 25V11_0
     84V12_0 12NA 14V11_0 2NA 4V12_0 1V13_0 3V15_0 3V12_0 2V14_0 3NA 3V12_0 4V13_0 2V15_0 1V16_0 5NA
     1V16_0 6V12_0 19V13_0 4V14_0 3V15_0 7V13_0 4V14_0 3V15_0 1V16_0 1V15_0 3V13_0 3V14_0 1V16_0 7NA
     2V15_0 7V13_0 3V14_0 2V15_0 1V16_0 2NA 1V16_0 8V14_0 1V15_0 1V16_0 6NA 7V14_0 2V15_0 7NA 147V13_0
     1NA 55V13_0 37V16_0 10V13_0 1028NA 2V2_0 42711V3_1 7V13_0 2V14_0 32NA 4149V5_2 4V14_0 1V15_0 6NA
     222V6_0 2NA 5762V8_0 14NA 7473V10_0 15NA 622V15_1 2466NA 542V3_1 1504NA 2V2_0 4939V13_0 5NA
     4192V15_0 56398NA 2V2_0 65534NA 2V2_0 65534NA 2V2_0 65534NA 2V2_0 65534NA 2V2_0 65534NA 2V2_0
     65534NA 2V2_0 65534NA 2V2_0 65534NA 2V2_0 65534NA 2V2_0 65534NA 2V2_0 1NA 1V3_1 30NA 96V3_1 128NA
     240V4_0 65038NA 131074V2_0"

/-- The characters that the version with a name in its loose form has. -/
def ageNamed? (name : Text) : Option Ranges :=
  (age.key? name).map fun key =>
    let versions := (Text.between (· == ',') age.values.toList).filterMap fun names => (piecesOf names).head?
    age.ranges (key :: versions.takeWhile (· != key))

end CommandWords.Unicode
