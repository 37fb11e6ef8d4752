import ScalpBot.Text.CodeRanges

/-!
# Tables for domain names

How the characters of internationalized domain names are treated: which stand as they are, which are
passed over, which are replaced; which marks and joiners need company, and which way a character runs.
-/

namespace ScalpBot

/-- The characters beyond ASCII that stand as they are. -/
def domainValid : CodeRanges := CodeRanges.ofLengths
  ["161 7 1 1 1 2 1 1 1 2 4 2 3 1 3 1 23 1 7 33 1 1 1 1 1 1 1 1 1 1 1 1 1 1 1 1 1 1 1 1 1 1 1 1 ",
   "1 1 1 1 1 1 1 1 1 1 1 1 1 1 1 1 1 1 1 1 1 1 1 1 1 1 3 1 1 2 1 1 1 1 1 1 3 1 1 1 1 1 1 1 2 1 ",
   "1 1 1 1 1 1 1 1 1 1 1 1 1 1 1 1 1 1 1 1 1 1 1 1 1 1 1 1 1 1 1 1 1 1 1 1 1 1 1 1 1 1 1 1 2 1 ",
   "1 1 1 1 1 1 2 1 1 1 2 1 3 2 4 1 2 1 3 3 2 1 2 1 1 1 1 1 2 1 1 2 1 1 2 1 3 1 1 1 2 3 1 7 10 ",
   "1 1 1 1 1 1 1 1 1 1 1 1 1 1 2 1 1 1 1 1 1 1 1 1 1 1 1 1 1 1 1 1 2 4 1 3 1 1 1 1 1 1 1 1 1 1 ",
   "1 1 1 1 1 1 1 1 1 1 1 1 1 1 1 1 1 1 1 1 1 1 1 1 1 1 1 1 1 1 1 1 1 1 1 1 1 1 1 1 1 1 1 1 1 1 ",
   "1 1 7 2 1 2 2 1 1 4 1 1 1 1 1 1 1 1 97 9 31 6 2 5 91 2 1 3 9 1 32 1 1 1 1 1 1 1 1 3 3 18 1 ",
   "27 35 8 1 1 1 1 1 1 1 1 1 1 1 1 1 1 1 1 1 1 1 1 1 1 1 1 1 3 1 2 1 1 1 2 2 51 48 1 1 1 1 1 1 ",
   "1 1 1 1 1 1 1 1 1 1 1 1 1 1 1 1 1 1 1 1 1 1 1 1 1 1 1 9 1 1 1 1 1 1 1 1 1 1 1 1 1 1 1 1 1 1 ",
   "1 1 1 1 1 1 1 1 1 1 1 1 1 1 1 1 1 1 1 1 1 1 1 1 1 1 1 1 1 1 1 1 1 1 1 1 2 1 1 1 1 1 1 1 1 1 ",
   "1 1 1 2 1 1 1 1 1 1 1 1 1 1 1 1 1 1 1 1 1 1 1 1 1 1 1 1 1 1 1 1 1 1 1 1 1 1 1 1 1 1 1 1 1 1 ",
   "1 1 1 1 1 1 1 1 1 1 1 1 1 1 1 1 1 1 1 1 1 1 1 1 1 1 1 1 1 1 1 1 1 1 1 1 1 1 1 1 1 1 1 1 1 1 ",
   "1 1 1 1 1 1 1 1 41 46 1 3 2 3 1 55 8 27 4 6 17 22 1 88 4 100 1 48 2 59 2 101 14 59 2 49 2 ",
   "15 1 28 2 1 1 11 5 32 7 75 1 117 8 36 1 8 2 2 2 22 1 7 1 1 3 4 2 9 2 2 2 4 8 1 8 4 2 25 2 3 ",
   "1 6 4 2 2 22 1 7 1 1 2 1 2 2 2 1 1 5 4 2 2 3 3 1 10 1 9 17 10 3 1 9 1 3 1 22 1 7 1 2 1 5 2 ",
   "10 1 3 1 3 2 1 15 4 2 12 7 7 1 3 1 8 2 2 2 22 1 7 1 2 1 5 2 9 2 2 2 3 7 3 7 5 2 18 10 2 1 6 ",
   "3 3 1 4 3 2 1 1 1 2 3 2 3 3 3 12 4 5 3 3 1 4 2 1 6 1 14 21 5 13 1 3 1 23 1 16 2 9 1 3 1 4 7 ",
   "2 1 3 1 2 2 4 2 10 7 22 1 3 1 23 1 10 1 5 2 9 1 3 1 4 7 2 5 3 1 4 2 10 1 3 12 13 1 3 1 51 1 ",
   "3 1 6 4 16 2 26 1 3 1 18 3 24 1 9 1 1 2 7 3 1 4 6 1 1 1 8 6 10 2 3 12 50 1 7 4 29 37 2 1 1 ",
   "1 5 1 24 1 1 1 12 1 10 2 5 1 1 1 7 1 10 4 2 32 12 1 54 1 4 1 4 1 4 1 4 1 4 1 12 1 3 4 2 1 1 ",
   "5 7 1 17 1 4 1 4 1 4 1 4 1 4 1 12 1 3 1 15 1 13 37 160 48 44 1 98 2 232 1 4 2 7 1 1 1 4 2 ",
   "41 1 4 2 33 1 4 2 7 1 1 1 4 2 15 1 57 1 4 2 67 2 32 3 26 6 86 10 640 1 28 3 89 7 22 9 24 9 ",
   "20 12 13 1 3 1 2 12 52 2 40 2 10 6 10 6 11 5 10 6 89 7 43 5 70 10 31 1 12 4 12 4 1 3 42 2 5 ",
   "11 44 4 26 6 11 3 62 2 65 1 29 2 11 6 10 6 14 2 46 2 12 20 77 1 166 8 60 3 15 3 51 10 1 53 ",
   "8 8 43 5 44 3 1 11 1 18 1 28 13 1 34 37 64 1 1 1 1 1 1 1 1 1 1 1 1 1 1 1 1 1 1 1 1 1 1 1 1 ",
   "1 1 1 1 1 1 1 1 1 1 1 1 1 1 1 1 1 1 1 1 1 1 1 1 1 1 1 1 1 1 1 1 1 1 1 1 1 1 1 1 1 1 1 1 1 1 ",
   "1 1 1 1 1 1 1 1 1 1 1 1 1 1 1 1 1 1 1 1 1 1 1 1 1 1 1 1 1 1 1 1 1 1 1 1 1 1 1 1 1 1 1 1 1 1 ",
   "1 1 1 1 1 1 1 1 1 1 1 1 1 1 1 1 1 1 1 1 1 1 1 1 1 1 1 1 1 1 1 1 1 5 2 2 1 1 1 1 1 1 1 1 1 1 ",
   "1 1 1 1 1 1 1 1 1 1 1 1 1 1 1 1 1 1 1 1 1 1 1 1 1 1 1 1 1 1 1 1 1 1 1 1 1 1 1 1 1 1 1 1 1 1 ",
   "1 1 1 1 1 1 1 1 1 1 1 1 1 1 1 1 1 1 1 1 1 1 1 1 1 1 1 1 1 1 1 1 1 1 1 1 1 1 1 1 1 9 8 6 10 ",
   "8 8 8 8 6 10 8 8 8 8 1 1 1 1 1 1 1 1 1 1 1 1 1 51 2 4 1 15 1 9 3 3 2 8 3 1 4 14 1 21 2 2 1 ",
   "1 5 1 12 3 1 8 3 2 1 2 4 1 1 1 8 3 13 1 7 65 8 1 25 14 33 19 1 3 1 11 1 2 2 5 2 3 1 1 1 1 1 ",
   "1 1 4 1 11 1 6 4 5 6 48 3 1 5 1 2 4 156 2 1 2 248 2 255 22 11 160 1313 1 103 3 101 1 151 2 ",
   "138 48 48 1 1 3 2 1 1 1 1 1 1 4 1 1 2 1 6 5 1 1 1 1 1 1 1 1 1 1 1 1 1 1 1 1 1 1 1 1 1 1 1 1 ",
   "1 1 1 1 1 1 1 1 1 1 1 1 1 1 1 1 1 1 1 1 1 1 1 1 1 1 1 1 1 1 1 1 1 1 1 1 1 1 1 1 1 1 1 1 1 1 ",
   "1 1 1 1 1 1 1 1 1 1 1 1 1 1 1 1 1 1 1 1 1 1 1 1 1 1 1 1 8 1 1 1 4 1 1 5 45 1 1 5 1 2 56 8 1 ",
   "14 24 9 7 1 7 1 7 1 7 1 7 1 7 1 7 1 7 1 126 34 26 1 4 1 83 270 1 1 51 1 1 3 5 1 86 2 2 2 2 ",
   "1 95 6 43 96 2 14 70 10 16 72 8 47 1 384 28813 3 55 9 348 21 1 1 1 1 1 1 1 1 1 1 1 1 1 1 1 ",
   "1 1 1 1 1 1 1 1 1 1 1 1 1 1 1 1 1 1 1 1 1 1 1 1 1 1 1 1 1 19 1 1 1 1 1 1 1 1 1 1 1 1 1 1 1 ",
   "1 1 1 1 1 1 1 1 1 1 1 1 1 2 90 8 34 1 1 1 1 1 1 1 1 1 1 1 1 1 3 1 1 1 1 1 1 1 1 1 1 1 1 1 1 ",
   "1 1 1 1 1 1 1 1 1 1 1 1 1 1 1 1 1 1 1 1 1 1 1 1 1 1 1 1 1 1 1 1 1 1 1 1 1 1 1 1 1 1 1 1 1 1 ",
   "1 1 1 8 1 1 1 1 2 1 1 1 1 1 1 1 1 4 1 1 1 2 1 1 1 3 1 1 1 1 1 1 1 1 1 1 1 1 1 1 1 1 1 1 1 1 ",
   "5 1 5 1 1 1 1 1 1 1 1 1 1 1 1 1 1 1 4 1 1 1 2 1 1 1 1 1 1 1 1 1 1 1 1 1 1 1 26 2 2 51 3 10 ",
   "6 56 8 70 8 12 6 116 11 30 3 78 1 11 4 33 1 55 9 14 2 10 2 103 24 28 10 6 2 6 2 6 9 7 1 7 1 ",
   "44 4 9 1 2 84 46 2 10 6 11172 12 23 4 49 8722 2 1 1 1 2 10 1 1 1 1 2 2 3 244 1 147 33 363 ",
   "18 64 2 54 8 45 3 32 16 21 2 44 1 396 12 1 26 1 19 1 2 1 15 2 14 34 123 5 3 4 45 3 88 1 13 ",
   "3 1 47 46 130 29 3 49 15 28 4 36 9 30 5 43 5 30 1 37 4 14 82 118 2 10 46 36 4 40 8 52 11 1 ",
   "39 11 1 15 1 7 1 2 3 52 12 311 9 22 10 8 24 1 127 6 2 1 1 44 1 2 3 1 2 23 1 72 8 9 48 19 1 ",
   "2 5 33 3 27 5 27 38 56 4 20 2 50 1 2 5 8 1 3 1 29 2 3 4 10 7 9 7 64 32 39 4 12 9 54 3 29 2 ",
   "27 5 26 7 4 12 7 80 73 119 51 7 46 8 10 6 16 25 29 8 2 208 31 1 42 1 3 2 2 16 6 8 9 33 46 8 ",
   "42 22 26 38 28 20 23 9 78 4 36 9 62 1 5 13 25 7 10 6 53 1 18 8 39 9 96 1 20 11 18 1 47 62 7 ",
   "1 1 1 4 1 15 1 11 6 59 5 10 6 4 1 8 2 2 2 22 1 7 1 2 1 5 1 10 2 2 2 3 2 1 6 1 5 7 2 7 3 5 ",
   "11 10 1 1 2 1 1 38 1 10 1 1 2 1 1 4 1 10 1 2 8 2 29 92 1 5 30 72 8 10 166 54 2 38 34 69 11 ",
   "10 6 13 19 58 6 10 6 20 28 27 2 15 4 23 185 60 132 51 12 8 2 1 2 8 1 2 1 30 1 2 2 12 9 10 ",
   "70 8 2 46 2 11 27 72 8 83 13 73 7 10 86 8 88 34 14 10 6 9 1 45 1 14 10 29 3 32 2 22 1 14 73 ",
   "7 1 2 1 44 3 1 1 2 1 9 8 10 6 6 1 2 1 37 1 2 1 6 7 10 6 44 4 10 246 25 7 17 1 41 3 29 85 1 ",
   "15 50 13 923 102 111 1 5 11 196 2636 99 13 1072 16 22 10 3995 5 583 6841 58 1734 569 7 31 1 ",
   "10 4 81 1 10 6 30 2 6 10 70 10 10 1 7 1 21 5 19 432 58 230 59 32 25 44 75 4 57 7 17 64 5 11 ",
   "7 9 7382 41 32 97 115 8701 4 1 7 1 2 1 291 15 1 29 3 2 1 14 4 8 396 2308 107 5 13 3 9 7 10 ",
   "2 4 3936 214 36 3 3 436 6 23 15 17 15 46 2 23 9 116 60 246 10 39 2 53 7 14 8 64 6 42 21 70 ",
   "122 20 12 20 12 87 9 25 1159 652 15 5 1 15 1104 31 6 6 213 7 1 17 2 7 1 2 1 5 100 1 112 45 ",
   "3 14 2 10 4 2 320 31 17 58 5 1 464 42 214 43 4 1 192 31 1 22 8 2 224 7 1 4 1 2 1 15 1 197 2 ",
   "16 75 42 4 10 4 2 785 68 76 61 434 2 270 44 4 100 12 15 2 15 1 15 1 37 21 5 31 1 32 26 3 35 ",
   "1 29 56 26 96 6 154 985 3 17 3 13 3 218 6 12 4 1 15 12 4 56 8 10 6 40 8 30 2 12 4 2 14 9 39 ",
   "344 8 14 2 13 3 11 3 57 1 1 4 16 2 12 4 10 7 147 1 92 10 1 1029 42720 32 4382 2 5774 2 7473 ",
   "15 622 4514 4939 5 8490"]

/-- The characters that are passed over. -/
def domainIgnored : CodeRanges := CodeRanges.ofLengths
  ["173 1 673 1 3599 2 1619 2 85 5 2043 1 84 5 5 6 4340 1 52379 16 239 1 160 1 48383 4 5327 8 ",
   "798597 240"]

/-- The characters that are replaced by one. -/
def domainMap : CodeMap := CodeMap.ofRuns
  ["160 1 1 257 170 1 1 147 178 2 1 257 181 1 1 1550 185 1 1 273 186 1 1 151 192 23 1 64 216 7 ",
   "1 64 256 24 2 2 308 2 2 2 313 3 2 2 321 4 2 2 330 23 2 2 376 1 1 243 377 3 2 2 383 1 1 537 ",
   "385 1 1 420 386 2 2 2 390 1 1 412 391 1 1 2 393 2 1 410 395 1 1 2 398 1 1 158 399 1 1 404 ",
   "400 1 1 406 401 1 1 2 403 1 1 410 404 1 1 414 406 1 1 422 407 1 1 418 408 1 1 2 412 1 1 422 ",
   "413 1 1 426 415 1 1 428 416 3 2 2 422 1 1 436 423 1 1 2 425 1 1 436 428 1 1 2 430 1 1 436 ",
   "431 1 1 2 433 2 1 434 435 2 2 2 439 1 1 438 440 1 1 2 444 1 1 2 461 8 2 2 478 9 2 2 500 1 1 ",
   "2 502 1 1 195 503 1 1 113 504 20 2 2 544 1 1 261 546 9 2 2 570 1 1 21590 571 1 1 2 573 1 1 ",
   "327 574 1 1 21584 577 1 1 2 579 1 1 391 580 1 1 138 581 1 1 142 582 5 2 2 688 1 1 1169 689 ",
   "1 1 151 690 1 1 1169 691 1 1 1155 692 1 1 119 693 1 1 117 694 1 1 107 695 1 1 1153 696 1 1 ",
   "1151 736 1 1 251 737 1 1 1259 738 1 1 1247 739 1 1 1239 740 1 1 159 832 2 1 129 835 1 1 97 ",
   "837 1 1 232 880 2 2 2 884 1 1 375 886 1 1 2 894 1 1 1671 895 1 1 232 902 1 1 76 903 1 1 ",
   "1441 904 3 1 74 908 1 1 128 910 2 1 126 913 17 1 64 931 9 1 64 975 1 1 16 976 1 1 61 977 1 ",
   "1 51 978 1 1 27 979 1 1 13 980 1 1 19 981 1 1 31 982 1 1 45 984 12 2 2 1008 1 1 109 1009 1 ",
   "1 97 1010 1 1 95 1012 1 1 121 1013 1 1 129 1015 1 1 2 1017 1 1 109 1018 1 1 2 1021 3 1 261 ",
   "1024 16 1 160 1040 32 1 64 1120 17 2 2 1162 27 2 2 1216 1 1 30 1217 7 2 2 1232 48 2 2 1329 ",
   "38 1 96 3852 1 1 3 4256 38 1 14528 4295 1 1 14528 4301 1 1 14528 4348 1 1 65 5112 6 1 17 ",
   "7296 1 1 12445 7297 1 1 12443 7298 1 1 12425 7299 2 1 12421 7301 1 1 12423 7302 1 1 12409 ",
   "7303 1 1 12361 7304 1 1 70534 7305 1 1 2 7312 43 1 6017 7357 3 1 6017 7468 1 1 14743 7469 1 ",
   "1 14479 7470 2 2 14745 7473 1 1 14745 7474 1 1 13995 7475 8 1 14745 7484 1 1 14747 7485 1 1 ",
   "13877 7486 1 1 14749 7487 1 1 14747 7488 2 1 14745 7490 1 1 14743 7491 1 1 14789 7492 2 1 ",
   "13801 7494 1 1 137 7495 1 1 14795 7496 2 1 14793 7498 1 1 13795 7499 2 1 13793 7501 1 1 ",
   "14797 7503 1 1 14793 7504 1 1 14791 7505 1 1 14349 7506 1 1 14791 7507 1 1 13823 7508 2 1 ",
   "125 7510 1 1 14797 7511 2 1 14791 7513 1 1 121 7514 1 1 13783 7515 1 1 14795 7516 1 1 111 ",
   "7517 3 1 13143 7520 2 1 13109 7522 1 1 14835 7523 1 1 14819 7524 2 1 14815 7526 2 1 13161 ",
   "7528 1 1 13135 7529 2 1 13127 7544 1 1 12919 7579 1 1 13971 7580 1 1 14963 7581 1 1 13969 ",
   "7582 1 1 14685 7583 1 1 13959 7584 1 1 14965 7585 1 1 13957 7586 1 1 13955 7587 1 1 13949 ",
   "7588 3 1 13945 7591 1 1 89 7592 1 1 13847 7593 1 1 13945 7594 1 1 75 7595 1 1 13849 7596 1 ",
   "1 13943 7597 1 1 13947 7598 4 1 13945 7602 1 1 13941 7603 2 1 13923 7605 1 1 14357 7606 2 1 ",
   "13915 7608 1 1 313 7609 2 1 13917 7611 1 1 14979 7612 3 1 13913 7615 1 1 13327 7680 75 2 2 ",
   "7835 1 1 117 7838 1 1 15231 7840 48 2 2 7944 8 1 17 7960 6 1 17 7976 8 1 17 7992 8 1 17 ",
   "8008 6 1 17 8025 4 2 17 8040 8 1 17 8049 1 1 14219 8051 1 1 14221 8053 1 1 14223 8055 1 1 ",
   "14225 8057 1 1 14171 8059 1 1 14173 8061 1 1 14175 8120 2 1 17 8122 1 1 149 8123 1 1 14367 ",
   "8126 1 1 14347 8136 1 1 173 8137 1 1 14393 8138 1 1 173 8139 1 1 14395 8147 1 1 14471 8152 ",
   "2 1 17 8154 1 1 201 8155 1 1 14425 8163 1 1 14439 8168 2 1 17 8170 1 1 225 8171 1 1 14397 ",
   "8172 1 1 15 8175 1 1 16159 8184 1 1 257 8185 1 1 14427 8186 1 1 253 8187 1 1 14427 8192 1 1 ",
   "16321 8193 1 1 16323 8194 1 1 16325 8195 1 1 16327 8196 1 1 16329 8197 1 1 16331 8198 1 1 ",
   "16333 8199 1 1 16335 8200 1 1 16337 8201 1 1 16339 8202 1 1 16341 8209 1 1 3 8239 1 1 16415 ",
   "8287 1 1 16511 8304 1 1 16513 8305 1 1 16401 8308 6 1 16513 8314 1 1 16543 8315 1 1 814 ",
   "8316 1 1 16511 8317 2 1 16555 8319 1 1 16419 8320 10 1 16545 8330 1 1 16575 8331 1 1 782 ",
   "8332 1 1 16543 8333 2 1 16587 8336 1 1 16479 8337 1 1 16473 8338 1 1 16455 8339 1 1 16439 ",
   "8340 1 1 15479 8341 1 1 16475 8342 4 1 16471 8346 1 1 16469 8347 2 1 16465 8450 1 1 16703 ",
   "8455 1 1 15705 8458 2 1 16711 8460 1 1 16713 8461 1 1 16715 8462 1 1 16717 8463 1 1 16337 ",
   "8464 1 1 16719 8465 1 1 16721 8466 1 1 16717 8467 2 2 16719 8473 3 1 16723 8476 1 1 16725 ",
   "8477 1 1 16727 8484 1 1 16725 8486 1 1 15035 8488 1 1 16733 8490 1 1 16767 8491 1 1 16525 ",
   "8492 2 1 16789 8495 1 1 16789 8496 2 1 16791 8498 1 1 56 8499 1 1 16781 8500 1 1 16779 8501 ",
   "4 1 14027 8505 1 1 16801 8508 1 1 15097 8509 1 1 15125 8510 1 1 15127 8511 1 1 15103 8512 1 ",
   "1 418 8517 1 1 16835 8518 2 1 16837 8520 2 1 16831 8544 1 1 16879 8548 1 1 16861 8553 1 1 ",
   "16867 8556 1 1 16897 8557 2 1 16917 8559 1 1 16901 8560 1 1 16911 8564 1 1 16893 8569 1 1 ",
   "16899 8572 1 1 16929 8573 2 1 16949 8575 1 1 16933 8579 1 1 2 9001 2 1 6590 9312 9 1 18527 ",
   "9398 26 1 18603 9424 26 1 18655 9450 1 1 18805 11264 48 1 96 11360 1 1 2 11362 1 1 21487 ",
   "11363 1 1 7629 11364 1 1 21455 11367 3 2 2 11373 1 1 21561 11374 1 1 21499 11375 1 1 21567 ",
   "11376 1 1 21565 11378 1 1 2 11381 1 1 2 11388 1 1 22565 11389 1 1 22543 11390 2 1 21631 ",
   "11392 50 2 2 11499 2 2 2 11506 1 1 2 11631 1 1 29 11935 1 1 31324 12019 1 1 57688 12032 1 1 ",
   "15872 12033 1 1 15950 12034 1 1 15976 12035 1 1 15992 12036 1 1 16042 12037 1 1 16128 12038 ",
   "1 1 16140 12039 1 1 16178 12040 1 1 16228 12041 1 1 17516 12042 1 1 17590 12043 1 1 17600 ",
   "12044 1 1 17644 12045 1 1 17682 12046 1 1 17722 12047 1 1 17826 12048 1 1 17866 12049 1 1 ",
   "17886 12050 1 1 18194 12051 1 1 18380 12052 1 1 18434 12053 1 1 18442 12054 1 1 18500 12055 ",
   "1 1 18516 12056 1 1 18568 12057 1 1 18592 12058 1 1 18640 12059 1 1 18742 12060 1 1 18776 ",
   "12061 1 1 18828 12062 1 1 20338 12063 1 1 20480 12064 1 1 21398 12065 1 1 21442 12066 1 1 ",
   "21456 12067 1 1 21476 12068 1 1 21510 12069 1 1 21660 12070 1 1 22612 12071 1 1 22706 12072 ",
   "1 1 22944 12073 1 1 22988 12074 1 1 23024 12075 1 1 23066 12076 1 1 23172 12077 1 1 23176 ",
   "12078 1 1 23898 12079 1 1 23916 12080 1 1 23938 12081 1 1 23962 12082 1 1 24192 12083 1 1 ",
   "24206 12084 1 1 24214 12085 1 1 24446 12086 1 1 24464 12087 1 1 24488 12088 1 1 24502 12089 ",
   "1 1 24622 12090 1 1 24654 12091 1 1 24688 12092 1 1 24846 12093 1 1 26006 12094 1 1 26096 ",
   "12095 1 1 26136 12096 1 1 27614 12097 1 1 27622 12098 1 1 27786 12099 1 1 27816 12100 1 1 ",
   "27840 12101 1 1 27880 12102 1 1 27956 12103 1 1 27964 12104 1 1 28496 12105 1 1 28542 12106 ",
   "1 1 28604 12107 1 1 30634 12108 1 1 30764 12109 1 1 30808 12110 1 1 30922 12111 1 1 30968 ",
   "12112 1 1 30984 12113 1 1 30996 12114 1 1 31098 12115 1 1 31106 12116 1 1 31168 12117 1 1 ",
   "33324 12118 1 1 34216 12119 1 1 34238 12120 1 1 34246 12121 1 1 34252 12122 1 1 34266 12123 ",
   "1 1 34300 12124 1 1 34302 12125 1 1 34462 12126 1 1 34892 12127 1 1 34900 12128 1 1 35576 ",
   "12129 1 1 35594 12130 1 1 35692 12131 1 1 35704 12132 1 1 35720 12133 1 1 35734 12134 1 1 ",
   "35914 12135 1 1 35926 12136 1 1 36380 12137 1 1 36392 12138 1 1 36488 12139 1 1 36520 12140 ",
   "1 1 36612 12141 1 1 37084 12142 1 1 37096 12143 1 1 37128 12144 1 1 37780 12145 1 1 38030 ",
   "12146 1 1 38040 12147 1 1 38402 12148 1 1 38574 12149 1 1 38664 12150 1 1 39418 12151 1 1 ",
   "39682 12152 1 1 40828 12153 1 1 40880 12154 1 1 40992 12155 1 1 41092 12156 1 1 41226 12157 ",
   "1 1 41246 12158 1 1 41256 12159 1 1 41320 12160 1 1 41470 12161 1 1 41488 12162 1 1 42178 ",
   "12163 1 1 42190 12164 1 1 42206 12165 1 1 42222 12166 1 1 42252 12167 1 1 42280 12168 1 1 ",
   "42286 12169 1 1 42442 12170 1 1 42448 12171 1 1 42458 12172 1 1 44418 12173 1 1 44476 12174 ",
   "1 1 45412 12175 1 1 45434 12176 1 1 45478 12177 1 1 46042 12178 1 1 46066 12179 1 1 46206 ",
   "12180 1 1 46296 12181 1 1 47428 12182 1 1 47456 12183 1 1 47484 12184 1 1 47552 12185 1 1 ",
   "47624 12186 1 1 48020 12187 1 1 48042 12188 1 1 48174 12189 1 1 48668 12190 1 1 48728 12191 ",
   "1 1 49144 12192 1 1 49184 12193 1 1 49192 12194 1 1 49630 12195 1 1 49996 12196 1 1 50244 ",
   "12197 1 1 50254 12198 1 1 50262 12199 1 1 52128 12200 1 1 52144 12201 1 1 52454 12202 1 1 ",
   "52760 12203 1 1 52764 12204 1 1 52856 12205 1 1 53064 12206 1 1 53088 12207 1 1 53094 12208 ",
   "1 1 53106 12209 1 1 53300 12210 1 1 53366 12211 1 1 53376 12212 1 1 53402 12213 1 1 53734 ",
   "12214 1 1 53834 12215 1 1 53840 12216 1 1 54204 12217 1 1 54208 12218 1 1 54244 12219 1 1 ",
   "54746 12220 1 1 54840 12221 1 1 54852 12222 1 1 54990 12223 1 1 55008 12224 1 1 55012 12225 ",
   "1 1 55030 12226 1 1 55088 12227 1 1 55876 12228 1 1 56674 12229 1 1 56692 12230 1 1 56766 ",
   "12231 1 1 56808 12232 1 1 56822 12233 1 1 56840 12234 1 1 56846 12235 1 1 56924 12236 1 1 ",
   "56930 12237 1 1 56962 12238 1 1 56970 12239 1 1 56994 12240 1 1 57046 12241 1 1 57074 12242 ",
   "1 1 57088 12243 1 1 57204 12244 1 1 57232 12245 1 1 57238 12288 1 1 24513 12290 1 1 24489 ",
   "12342 1 1 73 12344 1 1 17938 12345 2 1 17942 12593 2 1 16483 12595 1 1 16147 12596 1 1 ",
   "16485 12597 2 1 16147 12599 3 1 16489 12602 6 1 16149 12608 1 1 16461 12609 3 1 16503 12612 ",
   "1 1 16455 12613 10 1 16505 12623 21 1 16349 12645 2 1 16547 12647 2 1 16193 12649 1 1 16187 ",
   "12650 1 1 16185 12651 1 1 16177 12652 1 1 16171 12653 1 1 16169 12654 1 1 16549 12655 1 1 ",
   "16165 12656 1 1 16163 12657 2 1 16553 12659 1 1 16551 12660 2 1 16549 12662 1 1 16543 12663 ",
   "1 1 16541 12664 5 1 16539 12669 1 1 16535 12670 1 1 16529 12671 1 1 16511 12672 1 1 16499 ",
   "12673 1 1 16491 12674 2 1 16163 12676 3 1 16475 12679 2 1 16391 12681 1 1 16387 12682 2 1 ",
   "16371 12684 1 1 16369 12685 1 1 16351 12686 1 1 16347 12690 1 1 14556 12691 1 1 14834 12692 ",
   "1 1 14570 12693 1 1 19084 12694 1 1 14568 12695 1 1 14636 12696 1 1 14566 12697 1 1 34610 ",
   "12698 1 1 14718 12699 1 1 14588 12700 1 1 14538 12701 1 1 20248 12702 1 1 19236 12703 1 1 ",
   "14902 12868 1 1 17942 12869 1 1 22638 12870 1 1 26242 12871 1 1 37520 12896 1 1 17089 12897 ",
   "2 1 17087 12899 3 1 17085 12902 1 1 17083 12903 2 1 17081 12905 5 1 17079 12910 1 1 62244 ",
   "12911 1 1 64594 12912 1 1 65768 12913 1 1 68118 12914 1 1 69292 12915 1 1 70466 12916 1 1 ",
   "72816 12917 1 1 75166 12918 1 1 76340 12919 1 1 78690 12920 1 1 79864 12921 1 1 81038 12922 ",
   "1 1 82212 12923 1 1 83386 12926 1 1 75876 12928 1 1 14080 12929 1 1 14358 12930 1 1 14094 ",
   "12931 1 1 18608 12932 1 1 14368 12933 1 1 15824 12934 1 1 14074 12935 1 1 15816 12936 1 1 ",
   "14250 12937 1 1 16752 12938 1 1 26876 12939 1 1 31680 12940 1 1 29520 12941 1 1 26934 12942 ",
   "1 1 48774 12943 1 1 18720 12944 1 1 26282 12945 1 1 27442 12946 1 1 26862 12947 1 1 36182 ",
   "12948 1 1 17138 12949 1 1 32712 12950 1 1 46102 12951 1 1 36236 12952 1 1 16440 12953 1 1 ",
   "36478 12954 1 1 34106 12955 1 1 19888 12956 1 1 48026 12957 1 1 15642 12958 1 1 16804 12959 ",
   "1 1 29842 12960 1 1 51914 12961 1 1 14560 12962 1 1 15854 12963 1 1 29056 12964 1 1 14028 ",
   "12965 1 1 14096 12966 1 1 14026 12967 1 1 22142 12968 1 1 17046 12969 1 1 16676 12970 1 1 ",
   "20954 12971 1 1 20854 12972 1 1 34926 12973 1 1 14504 12974 1 1 46130 12975 1 1 16714 12976 ",
   "1 1 19672 13008 1 1 1117 13009 1 1 1115 13010 1 1 1113 13011 1 1 1111 13012 2 1 1109 13014 ",
   "1 1 1107 13015 1 1 1105 13016 1 1 1103 13017 1 1 1101 13018 1 1 1099 13019 1 1 1097 13020 1 ",
   "1 1095 13021 1 1 1093 13022 1 1 1091 13023 1 1 1089 13024 1 1 1087 13025 1 1 1083 13026 1 1 ",
   "1081 13027 1 1 1079 13028 6 1 1077 13034 1 1 1073 13035 1 1 1069 13036 1 1 1065 13037 1 1 ",
   "1061 13038 5 1 1057 13043 1 1 1055 13044 1 1 1053 13045 6 1 1051 13051 4 1 1049 42560 23 2 ",
   "2 42624 14 2 2 42652 1 1 83109 42653 1 1 83107 42786 7 2 2 42802 31 2 2 42864 1 1 3 42873 2 ",
   "2 2 42877 1 1 70665 42878 5 2 2 42891 1 1 2 42893 1 1 84561 42896 2 2 2 42902 10 2 2 42922 ",
   "1 1 84617 42923 1 1 84639 42924 1 1 84631 42925 1 1 84611 42926 1 1 84617 42928 1 1 84517 ",
   "42929 1 1 84565 42930 1 1 84523 42931 1 1 1856 42932 8 2 2 42948 1 1 97 42949 1 1 84615 ",
   "42950 1 1 70769 42951 2 2 2 42955 1 1 84687 42956 8 2 2 42972 1 1 85123 42993 1 1 85757 ",
   "42994 1 1 85791 42995 1 1 85787 42996 1 1 85767 42997 1 1 2 43000 1 1 85411 43001 1 1 85325 ",
   "43868 1 1 2155 43869 1 1 77 43870 1 1 86503 43871 1 1 27 43881 1 1 86457 43888 80 1 77729 ",
   "63744 1 1 55665 63745 1 1 74779 63746 1 1 54385 63747 1 1 55415 63748 1 1 70759 63749 1 1 ",
   "87463 63750 1 1 84547 63751 1 1 45783 63752 1 1 45785 63753 1 1 81777 63754 1 1 52851 63755 ",
   "1 1 83721 63756 1 1 81801 63757 1 1 77359 63758 1 1 66891 63759 1 1 62229 63760 1 1 58787 ",
   "63761 1 1 58031 63762 1 1 57397 63763 1 1 53513 63764 1 1 73253 63765 1 1 71669 63766 1 1 ",
   "69755 63767 1 1 68211 63768 1 1 59831 63769 1 1 53087 63770 1 1 48723 63771 1 1 87347 63772 ",
   "1 1 84815 63773 1 1 72755 63774 1 1 69127 63775 1 1 58853 63776 1 1 46597 63777 1 1 79779 ",
   "63778 1 1 70255 63779 1 1 59053 63780 1 1 57217 63781 1 1 76985 63782 1 1 61085 63783 1 1 ",
   "57873 63784 1 1 79037 63785 1 1 74789 63786 1 1 71553 63787 1 1 68703 63788 1 1 53437 63789 ",
   "1 1 86863 63790 1 1 85743 63791 1 1 85155 63792 1 1 75993 63793 1 1 72893 63794 1 1 69189 ",
   "63795 1 1 66713 63796 1 1 62055 63797 1 1 58975 63798 1 1 58805 63799 1 1 54929 63800 1 1 ",
   "50189 63801 1 1 48021 63802 1 1 46721 63803 1 1 65887 63804 1 1 65403 63805 1 1 63291 63806 ",
   "1 1 60139 63807 1 1 52343 63808 1 1 46467 63809 1 1 56535 63810 1 1 82119 63811 1 1 78975 ",
   "63812 1 1 63945 63813 1 1 61839 63814 1 1 69065 63815 1 1 65787 63816 1 1 55565 63817 1 1 ",
   "50341 63818 1 1 82149 63819 1 1 80339 63820 1 1 73331 63821 1 1 71399 63822 1 1 70783 63823 ",
   "1 1 63553 63824 1 1 63027 63825 1 1 50701 63826 1 1 85249 63827 1 1 61841 63828 1 1 85745 ",
   "63829 1 1 85779 63830 1 1 65141 63831 1 1 63283 63832 1 1 60111 63833 1 1 50633 63834 1 1 ",
   "56245 63835 1 1 77081 63836 1 1 73397 63837 1 1 56511 63838 1 1 87627 63839 1 1 80625 63840 ",
   "1 1 78493 63841 1 1 68533 63842 1 1 67557 63843 1 1 85145 63844 1 1 65747 63845 1 1 86861 ",
   "63846 1 1 78715 63847 1 1 87733 63848 1 1 71993 63849 1 1 75747 63850 1 1 63633 63851 1 1 ",
   "84817 63852 1 1 82461 63853 1 1 66777 63854 1 1 59979 63855 1 1 56715 63856 1 1 72557 63857 ",
   "1 1 54147 63858 1 1 72149 63859 1 1 77035 63860 1 1 60703 63861 1 1 76715 63862 1 1 67619 ",
   "63863 1 1 87443 63864 1 1 86047 63865 1 1 85857 63866 1 1 74227 63867 1 1 63785 63868 1 1 ",
   "60955 63869 1 1 56663 63870 1 1 53087 63871 1 1 85269 63872 1 1 84605 63873 1 1 81949 63874 ",
   "1 1 79149 63875 1 1 75645 63876 1 1 70413 63877 1 1 65719 63878 1 1 51123 63879 1 1 48699 ",
   "63880 1 1 46563 63881 1 1 46455 63882 1 1 85471 63883 1 1 75147 63884 1 1 72747 63885 1 1 ",
   "54359 63886 1 1 79413 63887 1 1 77823 63888 1 1 77601 63889 1 1 76271 63890 1 1 70879 63891 ",
   "1 1 69781 63892 1 1 68119 63893 1 1 65431 63894 1 1 63301 63895 1 1 62033 63896 1 1 54501 ",
   "63897 1 1 59735 63898 1 1 53999 63899 1 1 52387 63900 1 1 85771 63901 1 1 85493 63902 1 1 ",
   "84419 63903 1 1 70063 63904 1 1 57789 63905 1 1 56815 63906 1 1 79283 63907 1 1 78685 63908 ",
   "1 1 76883 63909 1 1 72687 63910 1 1 64209 63911 1 1 68709 63912 1 1 87433 63913 1 1 83297 ",
   "63914 1 1 80775 63915 1 1 79843 63916 1 1 78625 63917 1 1 68599 63918 1 1 68235 63919 1 1 ",
   "62507 63920 1 1 62165 63921 1 1 52987 63922 1 1 50553 63923 1 1 50391 63924 1 1 49977 63925 ",
   "1 1 87125 63926 1 1 65553 63927 1 1 53255 63928 1 1 50689 63929 1 1 78257 63930 1 1 87657 ",
   "63931 1 1 86467 63932 1 1 80797 63933 1 1 80637 63934 1 1 75851 63935 1 1 73595 63936 1 1 ",
   "69605 63937 1 1 67327 63938 1 1 59789 63939 1 1 53903 63940 1 1 46191 63941 1 1 75387 63942 ",
   "1 1 50993 63943 1 1 85629 63944 1 1 74907 63945 1 1 74669 63946 1 1 71955 63947 1 1 71263 ",
   "63948 1 1 68487 63949 1 1 67817 63950 1 1 66247 63951 1 1 63871 63952 1 1 49893 63953 1 1 ",
   "86217 63954 1 1 77641 63955 1 1 50871 63956 1 1 86867 63957 1 1 80249 63958 1 1 71641 63959 ",
   "1 1 54619 63960 1 1 79003 63961 1 1 78123 63962 1 1 74631 63963 1 1 68777 63964 1 1 50861 ",
   "63965 1 1 85865 63966 1 1 84895 63967 1 1 80629 63968 1 1 75675 63969 1 1 75047 63970 1 1 ",
   "74357 63971 1 1 72189 63972 1 1 68541 63973 1 1 67591 63974 1 1 62683 63975 1 1 57905 63976 ",
   "1 1 57871 63977 1 1 53307 63978 1 1 50705 63979 1 1 85337 63980 1 1 71269 63981 1 1 84897 ",
   "63982 1 1 69693 63983 1 1 68271 63984 1 1 59373 63985 1 1 50845 63986 1 1 47927 63987 1 1 ",
   "46761 63988 1 1 74939 63989 1 1 71765 63990 1 1 61469 63991 1 1 65113 63992 1 1 64945 63993 ",
   "1 1 64207 63994 1 1 69237 63995 1 1 70341 63996 1 1 56649 63997 1 1 87675 63998 1 1 60817 ",
   "63999 1 1 85899 64000 1 1 86003 64001 1 1 79543 64002 1 1 77407 64003 1 1 64091 64004 1 1 ",
   "81151 64005 1 1 72143 64006 1 1 75429 64007 1 1 54681 64008 1 1 58233 64009 1 1 51065 64010 ",
   "1 1 57599 64011 1 1 79473 64012 1 1 86425 64013 1 1 84123 64016 1 1 82797 64018 1 1 75581 ",
   "64021 1 1 86127 64022 1 1 69081 64023 1 1 67227 64024 1 1 65977 64025 1 1 65911 64026 1 1 ",
   "65899 64027 1 1 65817 64028 1 1 50573 64029 1 1 64191 64030 1 1 62659 64032 1 1 59421 64034 ",
   "1 1 56917 64037 1 1 54235 64038 1 1 53843 64042 1 1 49783 64043 1 1 49759 64044 1 1 49673 ",
   "64045 1 1 47347 64046 1 1 53921 64047 1 1 50929 64048 1 1 87301 64049 1 1 86677 64050 1 1 ",
   "86475 64051 1 1 85717 64052 1 1 85665 64053 1 1 85449 64054 1 1 84275 64055 1 1 84067 64056 ",
   "1 1 83873 64057 1 1 82931 64058 1 1 82725 64059 1 1 80815 64060 1 1 80797 64061 1 1 78675 ",
   "64062 1 1 78253 64063 1 1 78179 64064 1 1 77981 64065 1 1 76261 64066 1 1 75969 64067 1 1 ",
   "75621 64068 1 1 74623 64069 1 1 72093 64070 1 1 71769 64071 1 1 71243 64072 1 1 70069 64073 ",
   "1 1 69693 64074 1 1 68689 64075 1 1 66421 64076 1 1 66077 64077 1 1 66057 64078 1 1 66061 ",
   "64079 1 1 66047 64080 1 1 66037 64081 1 1 66025 64082 2 1 65931 64084 1 1 65577 64085 1 1 ",
   "65449 64086 1 1 64813 64087 1 1 63687 64088 1 1 63647 64089 1 1 63537 64090 1 1 62929 64091 ",
   "1 1 62637 64092 1 1 61663 64093 1 1 61385 64094 1 1 61387 64095 1 1 60433 64096 1 1 58017 ",
   "64097 1 1 57751 64098 1 1 57027 64099 1 1 56917 64100 1 1 56099 64101 1 1 55995 64102 1 1 ",
   "54625 64103 1 1 54367 64104 1 1 50955 64105 1 1 50389 64106 1 1 50271 64107 1 1 78829 64108 ",
   "1 1 168196 64109 1 1 61611 64112 1 1 88213 64113 1 1 86393 64114 1 1 86549 64115 1 1 87527 ",
   "64116 1 1 86623 64117 1 1 86507 64118 1 1 85855 64119 1 1 85755 64120 1 1 84407 64121 1 1 ",
   "84553 64122 1 1 84419 64123 1 1 84275 64124 1 1 83013 64125 1 1 82837 64126 1 1 82549 64127 ",
   "1 1 82519 64128 1 1 81981 64129 1 1 81587 64130 1 1 79713 64131 1 1 79701 64132 1 1 79415 ",
   "64133 1 1 79281 64134 1 1 78685 64135 1 1 78451 64136 1 1 78593 64137 1 1 78327 64138 1 1 ",
   "78421 64139 1 1 78131 64140 1 1 78001 64141 1 1 77203 64142 1 1 77029 64143 1 1 76923 64144 ",
   "1 1 76405 64145 1 1 75835 64146 1 1 75511 64147 1 1 75505 64148 1 1 75389 64149 1 1 73273 ",
   "64150 1 1 73145 64151 1 1 72365 64152 1 1 71547 64153 1 1 71581 64154 1 1 71409 64155 1 1 ",
   "70907 64156 1 1 70237 64157 1 1 67053 64158 1 1 69843 64159 1 1 69601 64160 1 1 69357 64161 ",
   "1 1 68705 64162 1 1 68409 64163 1 1 68305 64164 1 1 67855 64165 1 1 67853 64166 1 1 67513 ",
   "64167 1 1 67481 64168 1 1 67433 64169 1 1 67263 64170 1 1 67285 64171 1 1 66495 64172 1 1 ",
   "65527 64173 1 1 64987 64174 1 1 64615 64175 1 1 64169 64176 1 1 63865 64177 1 1 63207 64178 ",
   "1 1 62811 64179 1 1 61123 64180 1 1 60811 64181 1 1 59001 64182 1 1 58091 64183 1 1 57955 ",
   "64184 1 1 57925 64185 1 1 57333 64186 1 1 57221 64187 1 1 57313 64188 1 1 57207 64189 1 1 ",
   "57215 64190 1 1 57251 64191 1 1 57101 64192 1 1 56941 64193 1 1 56179 64194 1 1 55061 64195 ",
   "1 1 54435 64196 1 1 53847 64197 1 1 53407 64198 1 1 51349 64199 1 1 51145 64200 1 1 50917 ",
   "64201 1 1 50653 64202 1 1 50583 64203 1 1 50561 64204 1 1 50467 64205 1 1 49015 64206 1 1 ",
   "46693 64207 1 1 154358 64208 1 1 154344 64209 1 1 160264 64210 1 1 97899 64211 1 1 95607 ",
   "64212 1 1 95543 64213 1 1 175848 64214 1 1 181236 64215 1 1 198648 64216 1 1 46891 64217 1 ",
   "1 46743 64288 1 1 125565 64289 1 1 125603 64290 2 1 125599 64292 3 1 125587 64295 1 1 ",
   "125567 64296 1 1 125565 64297 1 1 128509 64336 1 1 125375 64337 1 1 125377 64338 1 1 125359 ",
   "64339 1 1 125361 64340 1 1 125363 64341 1 1 125365 64342 1 1 125361 64343 1 1 125363 64344 ",
   "1 1 125365 64345 1 1 125367 64346 1 1 125365 64347 1 1 125367 64348 1 1 125369 64349 1 1 ",
   "125371 64350 1 1 125385 64351 1 1 125387 64352 1 1 125389 64353 1 1 125391 64354 1 1 125383 ",
   "64355 1 1 125385 64356 1 1 125387 64357 1 1 125389 64358 1 1 125403 64359 1 1 125405 64360 ",
   "1 1 125407 64361 1 1 125409 64362 1 1 125325 64363 1 1 125327 64364 1 1 125329 64365 1 1 ",
   "125331 64366 1 1 125329 64367 1 1 125331 64368 1 1 125333 64369 1 1 125335 64370 1 1 125405 ",
   "64371 1 1 125407 64372 1 1 125409 64373 1 1 125411 64374 1 1 125415 64375 1 1 125417 64376 ",
   "1 1 125419 64377 1 1 125421 64378 1 1 125417 64379 1 1 125419 64380 1 1 125421 64381 2 1 ",
   "125423 64383 1 1 125425 64384 1 1 125427 64385 1 1 125429 64386 1 1 125419 64387 1 1 125421 ",
   "64388 1 1 125425 64389 1 1 125427 64390 1 1 125425 64391 1 1 125427 64392 1 1 125441 64393 ",
   "1 1 125443 64394 1 1 125413 64395 1 1 125415 64396 1 1 125431 64397 1 1 125433 64398 1 1 ",
   "125387 64399 1 1 125389 64400 1 1 125391 64401 1 1 125393 64402 1 1 125383 64403 1 1 125385 ",
   "64404 1 1 125387 64405 1 1 125389 64406 1 1 125383 64407 1 1 125385 64408 1 1 125387 64409 ",
   "1 1 125389 64410 1 1 125395 64411 1 1 125397 64412 1 1 125399 64413 1 1 125401 64414 1 1 ",
   "125385 64415 2 1 125387 64417 1 1 125389 64418 1 1 125391 64419 1 1 125393 64420 1 1 125385 ",
   "64421 2 1 125387 64423 1 1 125389 64424 1 1 125391 64425 1 1 125393 64426 1 1 125401 64427 ",
   "1 1 125403 64428 1 1 125405 64429 1 1 125407 64430 1 1 125369 64431 2 1 125371 64433 1 1 ",
   "125373 64467 1 1 125517 64468 1 1 125519 64469 1 1 125521 64470 1 1 125523 64471 1 1 125473 ",
   "64472 1 1 125475 64473 1 1 125479 64474 1 1 125481 64475 1 1 125479 64476 1 1 125481 64478 ",
   "1 1 125479 64479 1 1 125481 64480 1 1 125495 64481 1 1 125497 64482 1 1 125491 64483 1 1 ",
   "125493 64484 1 1 125481 64485 1 1 125483 64486 1 1 125485 64487 1 1 125487 64488 1 1 125759 ",
   "64489 1 1 125761 64508 1 1 125537 64509 1 1 125539 64510 1 1 125541 64511 1 1 125543 65040 ",
   "1 1 129993 65041 1 1 105505 65043 2 1 129971 65045 1 1 130025 65046 1 1 129967 65047 2 1 ",
   "105475 65073 1 1 113723 65074 1 1 113727 65075 1 1 129961 65076 1 1 129963 65077 2 1 130075 ",
   "65079 1 1 129913 65080 1 1 129911 65081 2 1 105547 65083 2 1 105559 65085 2 1 105575 65087 ",
   "2 1 105583 65089 4 1 105579 65095 1 1 130009 65096 1 1 130007 65101 1 1 130013 65102 1 1 ",
   "130015 65103 1 1 130017 65104 1 1 130121 65105 1 1 105633 65108 1 1 130099 65109 1 1 130103 ",
   "65110 1 1 130095 65111 1 1 130157 65112 1 1 113801 65113 2 1 130147 65115 1 1 129985 65116 ",
   "1 1 129983 65117 2 1 105619 65119 1 1 130169 65120 1 1 130165 65121 2 1 130159 65123 1 1 ",
   "130157 65124 1 1 130129 65125 1 1 130127 65126 1 1 130131 65128 1 1 130073 65129 2 1 130187 ",
   "65131 1 1 130135 65152 2 1 127167 65154 2 1 127169 65156 2 1 127171 65158 2 1 127173 65160 ",
   "2 1 127175 65162 1 1 127177 65163 1 1 127179 65164 2 1 127181 65166 2 1 127183 65168 1 1 ",
   "127185 65169 1 1 127187 65170 2 1 127189 65172 2 1 127191 65174 1 1 127193 65175 1 1 127195 ",
   "65176 2 1 127197 65178 1 1 127199 65179 1 1 127201 65180 2 1 127203 65182 1 1 127205 65183 ",
   "1 1 127207 65184 2 1 127209 65186 1 1 127211 65187 1 1 127213 65188 2 1 127215 65190 1 1 ",
   "127217 65191 1 1 127219 65192 2 1 127221 65194 2 1 127223 65196 2 1 127225 65198 2 1 127227 ",
   "65200 2 1 127229 65202 1 1 127231 65203 1 1 127233 65204 2 1 127235 65206 1 1 127237 65207 ",
   "1 1 127239 65208 2 1 127241 65210 1 1 127243 65211 1 1 127245 65212 2 1 127247 65214 1 1 ",
   "127249 65215 1 1 127251 65216 2 1 127253 65218 1 1 127255 65219 1 1 127257 65220 2 1 127259 ",
   "65222 1 1 127261 65223 1 1 127263 65224 2 1 127265 65226 1 1 127267 65227 1 1 127269 65228 ",
   "2 1 127271 65230 1 1 127273 65231 1 1 127275 65232 1 1 127277 65233 1 1 127265 65234 1 1 ",
   "127267 65235 1 1 127269 65236 2 1 127271 65238 1 1 127273 65239 1 1 127275 65240 2 1 127277 ",
   "65242 1 1 127279 65243 1 1 127281 65244 2 1 127283 65246 1 1 127285 65247 1 1 127287 65248 ",
   "2 1 127289 65250 1 1 127291 65251 1 1 127293 65252 2 1 127295 65254 1 1 127297 65255 1 1 ",
   "127299 65256 2 1 127301 65258 1 1 127303 65259 1 1 127305 65260 2 1 127307 65262 2 1 127309 ",
   "65264 2 1 127311 65266 1 1 127313 65267 1 1 127315 65268 1 1 127317 65281 32 1 130497 65313 ",
   "26 1 130433 65339 36 1 130497 65375 2 1 109493 65377 1 1 130663 65378 2 1 106157 65380 1 1 ",
   "106183 65381 1 1 105685 65382 1 1 105705 65383 1 1 105869 65384 1 1 105867 65385 1 1 105865 ",
   "65386 1 1 105863 65387 1 1 105861 65388 1 1 105747 65389 1 1 105745 65390 1 1 105743 65391 ",
   "1 1 105817 65392 1 1 105705 65393 1 1 105887 65394 1 1 105885 65395 1 1 105883 65396 1 1 ",
   "105881 65397 2 1 105879 65399 1 1 105877 65400 1 1 105875 65401 1 1 105873 65402 1 1 105871 ",
   "65403 1 1 105869 65404 1 1 105867 65405 1 1 105865 65406 1 1 105863 65407 1 1 105861 65408 ",
   "1 1 105859 65409 1 1 105857 65410 1 1 105853 65411 1 1 105851 65412 1 1 105849 65413 6 1 ",
   "105847 65419 1 1 105843 65420 1 1 105839 65421 1 1 105835 65422 1 1 105831 65423 5 1 105827 ",
   "65428 1 1 105825 65429 1 1 105823 65430 6 1 105821 65436 1 1 105819 65437 1 1 105813 65438 ",
   "2 1 105995 65441 2 1 122179 65443 1 1 121843 65444 1 1 122181 65445 2 1 121843 65447 3 1 ",
   "122185 65450 6 1 121845 65456 1 1 122157 65457 3 1 122199 65460 1 1 122151 65461 10 1 ",
   "122201 65474 6 1 122051 65482 6 1 122055 65490 6 1 122059 65498 3 1 122063 65504 2 1 130685 ",
   "65506 1 1 130669 65508 1 1 130685 65509 1 1 130689 65510 1 1 114299 65512 1 1 112077 65513 ",
   "4 1 113843 65517 1 1 111771 65518 1 1 111687 66560 40 1 80 66736 36 1 80 66928 11 1 78 ",
   "66940 15 1 78 66956 7 1 78 66964 2 1 78 67457 2 1 133475 67459 1 1 134459 67460 1 1 133591 ",
   "67461 1 1 133733 67463 1 1 133577 67464 1 1 47173 67465 1 1 133577 67466 1 1 133581 67467 2 ",
   "1 133739 67469 1 1 119801 67470 1 1 133741 67471 1 1 133731 67472 1 1 133583 67473 1 1 ",
   "133723 67474 1 1 133729 67475 1 1 133735 67476 1 1 133619 67477 1 1 134365 67478 1 1 133621 ",
   "67479 1 1 133729 67480 1 1 133673 67481 2 1 133599 67483 1 1 133727 67484 1 1 110288 67485 ",
   "1 1 49183 67486 1 1 133729 67487 1 1 110284 67488 1 1 133669 67489 1 1 110282 67490 1 1 ",
   "134485 67491 2 1 133723 67493 1 1 134761 67494 1 1 133721 67495 1 1 110274 67496 2 1 133719 ",
   "67498 1 1 133717 67499 1 1 133639 67500 1 1 133645 67501 1 1 47245 67502 1 1 133647 67503 1 ",
   "1 133711 67504 1 1 112255 67506 1 1 133703 67507 2 1 133669 67509 1 1 133691 67510 3 1 ",
   "134125 67513 1 1 110242 67514 1 1 110280 68736 51 1 128 68944 22 1 64 71840 32 1 64 93760 ",
   "32 1 64 93856 25 1 54 117974 26 1 235755 118000 10 1 235905 119808 26 1 239423 119834 26 1 ",
   "239475 119860 26 1 239527 119886 7 1 239579 119894 18 1 239579 119912 26 1 239631 119938 26 ",
   "1 239683 119964 2 2 239735 119967 1 1 239735 119970 1 1 239735 119973 2 1 239735 119977 4 1 ",
   "239735 119982 8 1 239735 119990 4 1 239787 119995 2 2 239787 119998 6 1 239787 120005 11 1 ",
   "239787 120016 26 1 239839 120042 26 1 239891 120068 2 1 239943 120071 4 1 239943 120077 8 1 ",
   "239943 120086 7 1 239943 120094 26 1 239995 120120 2 1 240047 120123 4 1 240047 120128 5 1 ",
   "240047 120134 1 1 240047 120138 7 1 240047 120146 26 1 240099 120172 26 1 240151 120198 26 ",
   "1 240203 120224 26 1 240255 120250 26 1 240307 120276 26 1 240359 120302 26 1 240411 120328 ",
   "26 1 240463 120354 26 1 240515 120380 26 1 240567 120406 26 1 240619 120432 26 1 240671 ",
   "120458 26 1 240723 120484 1 1 240359 120485 1 1 239837 120488 17 1 239087 120505 1 1 239107 ",
   "120506 7 1 239087 120513 1 1 223605 120514 17 1 239139 120531 1 1 239137 120532 7 1 239139 ",
   "120539 1 1 223667 120540 1 1 239183 120541 1 1 239179 120542 1 1 239177 120543 1 1 239155 ",
   "120544 1 1 239167 120545 1 1 239171 120546 17 1 239203 120563 1 1 239223 120564 7 1 239203 ",
   "120571 1 1 223721 120572 17 1 239255 120589 1 1 239253 120590 7 1 239255 120597 1 1 223783 ",
   "120598 1 1 239299 120599 1 1 239295 120600 1 1 239293 120601 1 1 239271 120602 1 1 239283 ",
   "120603 1 1 239287 120604 17 1 239319 120621 1 1 239339 120622 7 1 239319 120629 1 1 223837 ",
   "120630 17 1 239371 120647 1 1 239369 120648 7 1 239371 120655 1 1 223899 120656 1 1 239415 ",
   "120657 1 1 239411 120658 1 1 239409 120659 1 1 239387 120660 1 1 239399 120661 1 1 239403 ",
   "120662 17 1 239435 120679 1 1 239455 120680 7 1 239435 120687 1 1 223953 120688 17 1 239487 ",
   "120705 1 1 239485 120706 7 1 239487 120713 1 1 224015 120714 1 1 239531 120715 1 1 239527 ",
   "120716 1 1 239525 120717 1 1 239503 120718 1 1 239515 120719 1 1 239519 120720 17 1 239551 ",
   "120737 1 1 239571 120738 7 1 239551 120745 1 1 224069 120746 17 1 239603 120763 1 1 239601 ",
   "120764 7 1 239603 120771 1 1 224131 120772 1 1 239647 120773 1 1 239643 120774 1 1 239641 ",
   "120775 1 1 239619 120776 1 1 239631 120777 1 1 239635 120778 1 1 239579 120779 1 1 239581 ",
   "120782 10 1 241469 120792 10 1 241489 120802 10 1 241509 120812 10 1 241529 120822 10 1 ",
   "241549 122928 9 1 243713 122937 3 1 243711 122940 11 1 243709 122951 1 1 243705 122952 2 1 ",
   "243703 122954 1 1 160643 122955 1 1 243429 122956 1 1 243693 122957 1 1 243691 122958 1 1 ",
   "243403 122959 1 1 243521 122960 1 1 243459 122961 9 1 243779 122970 2 1 243777 122972 2 1 ",
   "243773 122974 1 1 243771 122975 6 1 243769 122981 2 1 243767 122983 1 1 243629 122984 1 1 ",
   "243749 122985 1 1 243753 122986 1 1 243735 122987 1 1 243585 122988 1 1 160823 122989 1 1 ",
   "243577 125184 34 1 68 126464 2 1 249779 126466 1 1 249773 126467 1 1 249769 126469 1 1 ",
   "249723 126470 1 1 249769 126471 1 1 249781 126472 1 1 249763 126473 1 1 249727 126474 4 1 ",
   "249743 126478 1 1 249783 126479 1 1 249773 126480 1 1 249759 126481 1 1 249785 126482 1 1 ",
   "249761 126483 1 1 249797 126484 1 1 249793 126485 2 1 249815 126487 1 1 249811 126488 1 1 ",
   "249809 126489 1 1 249799 126490 1 1 249797 126491 1 1 249795 126492 1 1 249693 126493 1 1 ",
   "249543 126494 1 1 249595 126495 1 1 249697 126497 1 1 249843 126498 1 1 249837 126500 1 1 ",
   "249787 126503 1 1 249845 126505 1 1 249791 126506 4 1 249807 126510 1 1 249847 126511 1 1 ",
   "249837 126512 1 1 249823 126513 1 1 249849 126514 1 1 249825 126516 1 1 249857 126517 2 1 ",
   "249879 126519 1 1 249875 126521 1 1 249863 126523 1 1 249859 126530 1 1 249901 126535 1 1 ",
   "249909 126537 1 1 249855 126539 2 2 249871 126542 1 1 249911 126543 1 1 249901 126545 1 1 ",
   "249913 126546 1 1 249889 126548 1 1 249921 126551 1 1 249939 126553 1 1 249927 126555 1 1 ",
   "249923 126557 1 1 249671 126559 1 1 249825 126561 1 1 249971 126562 1 1 249965 126564 1 1 ",
   "249915 126567 1 1 249973 126568 1 1 249955 126569 1 1 249919 126570 2 2 249935 126573 1 1 ",
   "249935 126574 1 1 249975 126575 1 1 249965 126576 1 1 249951 126577 1 1 249977 126578 1 1 ",
   "249953 126580 1 1 249985 126581 2 1 250007 126583 1 1 250003 126585 1 1 249991 126586 1 1 ",
   "249989 126587 1 1 249987 126588 1 1 249885 126590 1 1 249787 126592 2 1 250035 126594 1 1 ",
   "250029 126595 1 1 250025 126596 2 1 249979 126598 1 1 250025 126599 1 1 250037 126600 1 1 ",
   "250019 126601 1 1 249983 126603 3 1 249999 126606 1 1 250039 126607 1 1 250029 126608 1 1 ",
   "250015 126609 1 1 250041 126610 1 1 250017 126611 1 1 250053 126612 1 1 250049 126613 2 1 ",
   "250071 126615 1 1 250067 126616 1 1 250065 126617 1 1 250055 126618 1 1 250053 126619 1 1 ",
   "250051 126625 1 1 250099 126626 1 1 250093 126627 1 1 250089 126629 1 1 250043 126630 1 1 ",
   "250089 126631 1 1 250101 126632 1 1 250083 126633 1 1 250047 126635 3 1 250063 126638 1 1 ",
   "250103 126639 1 1 250093 126640 1 1 250079 126641 1 1 250105 126642 1 1 250081 126643 1 1 ",
   "250117 126644 1 1 250113 126645 2 1 250135 126647 1 1 250131 126648 1 1 250129 126649 1 1 ",
   "250119 126650 1 1 250117 126651 1 1 250115 127275 1 1 254353 127276 1 1 254325 127280 26 1 ",
   "254367 127490 1 1 230043 127504 1 1 204683 127505 1 1 208245 127506 1 1 212109 127507 1 1 ",
   "230041 127508 1 1 214801 127509 1 1 209399 127510 1 1 184423 127511 1 1 209373 127512 1 1 ",
   "214761 127513 1 1 202739 127514 1 1 197107 127515 1 1 203013 127516 1 1 212895 127517 1 1 ",
   "206115 127518 1 1 213283 127519 1 1 202975 127520 1 1 212999 127521 1 1 190911 127522 1 1 ",
   "195079 127523 1 1 183029 127524 1 1 209513 127525 1 1 211929 127526 1 1 198181 127527 1 1 ",
   "204581 127528 1 1 204199 127529 1 1 215123 127530 1 1 215107 127531 1 1 181187 127532 1 1 ",
   "206989 127533 1 1 215041 127534 1 1 212087 127535 1 1 204369 127536 1 1 182657 127537 1 1 ",
   "204733 127538 1 1 192867 127539 1 1 192371 127540 1 1 212057 127541 1 1 198507 127542 1 1 ",
   "202331 127543 1 1 202335 127544 1 1 195083 127545 1 1 212879 127546 1 1 211209 127547 1 1 ",
   "180701 127568 1 1 206195 127569 1 1 212165 130032 10 1 259969 194560 1 1 349063 194561 1 1 ",
   "349075 194562 1 1 349059 194563 1 1 126403 194564 1 1 348489 194565 1 1 348335 194566 1 1 ",
   "348311 194567 1 1 348171 194568 1 1 347933 194569 1 1 347873 194570 1 1 347719 194571 1 1 ",
   "347769 194572 1 1 362205 194573 1 1 123815 194574 1 1 347523 194575 1 1 347511 194576 1 1 ",
   "347481 194577 1 1 347445 194578 1 1 124397 194579 1 1 362165 194580 1 1 347483 194581 1 1 ",
   "347409 194582 1 1 124311 194583 1 1 347393 194584 1 1 347369 194585 1 1 348827 194586 1 1 ",
   "347357 194587 1 1 347341 194588 1 1 52347 194589 1 1 347217 194590 1 1 347191 194591 1 1 ",
   "362113 194592 1 1 347083 194593 1 1 347063 194594 1 1 346977 194595 1 1 346969 194596 1 1 ",
   "362015 194597 1 1 346813 194598 1 1 346811 194599 1 1 346759 194600 1 1 346717 194601 2 1 ",
   "346697 194603 1 1 346665 194604 1 1 346567 194605 1 1 346553 194606 1 1 346537 194607 1 1 ",
   "346489 194608 1 1 346471 194609 1 1 346469 194610 1 1 346471 194611 1 1 346473 194612 1 1 ",
   "121873 194613 1 1 331659 194614 1 1 346329 194615 1 1 346289 194616 1 1 121259 194617 1 1 ",
   "346269 194618 1 1 346259 194619 1 1 346219 194620 1 1 345917 194621 1 1 346123 194622 1 1 ",
   "346093 194623 1 1 346031 194624 1 1 345917 194625 1 1 345751 194626 1 1 345701 194627 1 1 ",
   "345569 194628 1 1 345539 194629 1 1 345475 194630 1 1 345477 194631 1 1 345437 194632 1 1 ",
   "345403 194633 1 1 345389 194634 1 1 345361 194635 1 1 344683 194636 1 1 345229 194637 1 1 ",
   "344685 194638 1 1 345083 194639 1 1 345015 194640 1 1 347283 194641 1 1 343751 194642 1 1 ",
   "344329 194643 1 1 344255 194644 1 1 344207 194645 1 1 344469 194646 1 1 344137 194647 1 1 ",
   "344141 194648 1 1 343897 194649 1 1 116459 194650 1 1 343761 194651 1 1 343753 194652 1 1 ",
   "343725 194653 1 1 343687 194654 1 1 343673 194655 1 1 343547 194656 1 1 115569 194657 1 1 ",
   "115439 194658 1 1 343277 194659 1 1 343185 194660 1 1 343163 194661 1 1 343323 194662 1 1 ",
   "343041 194663 1 1 361203 194664 1 1 361177 194665 1 1 342723 194666 1 1 342617 194667 1 1 ",
   "342619 194668 1 1 113993 194669 1 1 342357 194670 1 1 342317 194671 1 1 342289 194672 1 1 ",
   "342267 194673 1 1 113331 194674 1 1 342247 194675 1 1 342235 194676 1 1 340547 194677 1 1 ",
   "342183 194678 1 1 360939 194679 1 1 342063 194680 1 1 342037 194681 1 1 341875 194682 1 1 ",
   "341979 194683 1 1 111919 194684 1 1 341619 194685 1 1 111919 194686 1 1 341537 194687 1 1 ",
   "341545 194688 1 1 341513 194689 2 1 341313 194691 1 1 360617 194692 1 1 341263 194693 1 1 ",
   "341179 194694 1 1 341139 194695 1 1 341053 194696 1 1 360525 194697 1 1 110093 194698 1 1 ",
   "360477 194699 1 1 340919 194700 1 1 340915 194701 1 1 340911 194702 1 1 340873 194703 1 1 ",
   "43515 194704 1 1 340773 194705 1 1 109249 194706 1 1 109251 194707 1 1 322853 194708 1 1 ",
   "340709 194709 1 1 340711 194710 1 1 360351 194711 1 1 101311 194712 1 1 77181 194713 1 1 ",
   "340591 194714 1 1 340575 194715 1 1 360305 194716 1 1 340485 194717 1 1 340385 194718 1 1 ",
   "340367 194719 1 1 340301 194720 1 1 340031 194721 1 1 360143 194722 1 1 360205 194723 1 1 ",
   "339999 194724 1 1 107425 194725 1 1 339901 194726 1 1 339645 194727 1 1 339639 194728 1 1 ",
   "339637 194729 1 1 339643 194730 1 1 339553 194731 1 1 339515 194732 1 1 339445 194733 1 1 ",
   "339475 194734 1 1 339455 194735 1 1 339363 194736 1 1 339325 194737 1 1 339319 194738 1 1 ",
   "339269 194739 1 1 339249 194740 1 1 339119 194741 1 1 338953 194742 1 1 338885 194743 1 1 ",
   "338639 194744 1 1 105305 194745 1 1 338681 194746 1 1 338813 194747 1 1 338599 194748 1 1 ",
   "338547 194749 1 1 338355 194750 1 1 104859 194751 1 1 338235 194752 1 1 338423 194753 1 1 ",
   "338481 194754 1 1 359721 194755 1 1 338101 194756 1 1 338061 194757 1 1 338001 194758 1 1 ",
   "338079 194759 1 1 359607 194760 1 1 337651 194761 1 1 337595 194762 1 1 102785 194763 1 1 ",
   "337361 194764 1 1 336809 194765 1 1 337161 194766 1 1 359275 194767 1 1 337021 194768 1 1 ",
   "359313 194769 1 1 359387 194770 1 1 347777 194771 1 1 347773 194772 1 1 336809 194773 1 1 ",
   "337011 194774 1 1 323667 194775 1 1 354813 194776 1 1 336771 194777 1 1 336765 194778 1 1 ",
   "336755 194779 1 1 336635 194780 1 1 336659 194781 1 1 100917 194782 1 1 359211 194783 1 1 ",
   "336331 194784 1 1 336567 194785 1 1 336159 194786 1 1 336059 194787 1 1 100589 194788 1 1 ",
   "336045 194789 1 1 336269 194790 1 1 335781 194791 1 1 359061 194792 1 1 335693 194793 1 1 ",
   "335501 194794 1 1 335361 194795 1 1 334983 194796 1 1 99475 194797 1 1 334885 194798 1 1 ",
   "358829 194799 1 1 334749 194800 1 1 98451 194801 1 1 334651 194802 1 1 358729 194803 1 1 ",
   "334595 194804 1 1 334507 194805 2 1 334455 194807 1 1 97493 194808 1 1 112603 194809 1 1 ",
   "97279 194810 1 1 334169 194811 1 1 96383 194812 1 1 333947 194813 1 1 333921 194814 1 1 ",
   "334127 194815 1 1 333779 194816 1 1 333701 194817 1 1 333589 194818 1 1 333699 194819 1 1 ",
   "333621 194820 1 1 333593 194821 1 1 333569 194822 1 1 96209 194823 1 1 333735 194824 1 1 ",
   "333235 194825 1 1 333111 194826 1 1 358319 194827 1 1 332929 194828 1 1 332939 194829 1 1 ",
   "95353 194830 1 1 333355 194831 1 1 332611 194832 1 1 95077 194833 1 1 94983 194834 1 1 ",
   "332441 194835 1 1 332213 194836 1 1 332269 194837 1 1 332277 194838 1 1 358145 194839 1 1 ",
   "332187 194840 1 1 332087 194841 1 1 332101 194842 1 1 331995 194843 1 1 124909 194844 1 1 ",
   "331695 194845 1 1 93557 194846 1 1 331525 194847 1 1 92905 194848 1 1 331249 194849 1 1 ",
   "331225 194850 1 1 331173 194851 1 1 91703 194852 1 1 331081 194853 1 1 331041 194854 1 1 ",
   "91107 194855 1 1 90663 194856 1 1 330589 194857 1 1 330557 194858 1 1 357629 194859 1 1 ",
   "330509 194860 1 1 357609 194861 1 1 357611 194862 1 1 330191 194863 1 1 330151 194864 1 1 ",
   "330111 194865 1 1 330073 194866 1 1 329937 194867 1 1 357425 194868 1 1 329761 194869 1 1 ",
   "88575 194870 1 1 329713 194871 1 1 88395 194872 1 1 329617 194873 1 1 110389 194874 1 1 ",
   "329301 194875 1 1 86837 194876 1 1 86793 194877 1 1 86515 194878 1 1 356997 194879 1 1 ",
   "356975 194880 1 1 328857 194881 1 1 86173 194882 1 1 86177 194883 1 1 86101 194884 1 1 ",
   "86051 194885 2 1 328783 194887 1 1 328785 194888 1 1 328701 194889 1 1 356897 194890 1 1 ",
   "328575 194891 1 1 356875 194892 1 1 356717 194893 1 1 84577 194894 1 1 328193 194895 1 1 ",
   "328071 194896 1 1 327945 194897 1 1 356573 194898 1 1 83545 194899 1 1 327675 194900 1 1 ",
   "83317 194901 1 1 83233 194902 1 1 327567 194903 1 1 327385 194904 1 1 356435 194905 1 1 ",
   "327219 194906 1 1 327201 194907 1 1 327193 194908 1 1 81857 194909 1 1 81261 194910 1 1 ",
   "81263 194911 1 1 326883 194912 1 1 356029 194913 1 1 80749 194914 1 1 326457 194915 1 1 ",
   "326453 194916 1 1 355963 194917 1 1 80331 194918 1 1 325929 194919 1 1 355727 194920 1 1 ",
   "325889 194921 1 1 325901 194922 1 1 325845 194923 1 1 78795 194924 1 1 325651 194925 1 1 ",
   "355545 194926 1 1 325455 194927 1 1 325339 194928 1 1 325207 194929 1 1 355451 194930 1 1 ",
   "77461 194931 1 1 77401 194932 1 1 355383 194933 1 1 77113 194934 1 1 324601 194935 1 1 ",
   "76915 194936 1 1 324551 194937 1 1 324351 194938 1 1 324331 194939 1 1 76099 194940 1 1 ",
   "75955 194941 1 1 324155 194942 1 1 75693 194943 1 1 324127 194944 1 1 101443 194945 1 1 ",
   "355161 194946 1 1 324001 194947 1 1 323841 194948 1 1 355059 194949 1 1 323727 194950 1 1 ",
   "343459 194951 1 1 74689 194952 1 1 74663 194953 1 1 101357 194954 1 1 101341 194955 1 1 ",
   "323349 194956 1 1 323345 194957 1 1 316383 194958 1 1 354887 194959 1 1 323069 194960 1 1 ",
   "323083 194961 1 1 323049 194962 1 1 347583 194963 1 1 323013 194964 1 1 323011 194965 1 1 ",
   "322993 194966 1 1 322913 194967 1 1 72887 194968 1 1 322919 194969 1 1 322809 194970 1 1 ",
   "322671 194971 1 1 322525 194972 1 1 322803 194973 1 1 322497 194974 1 1 322415 194975 1 1 ",
   "322193 194976 1 1 322715 194977 1 1 322479 194978 1 1 322477 194979 1 1 322447 194980 1 1 ",
   "72413 194981 1 1 71797 194982 1 1 72099 194983 1 1 354553 194984 1 1 321903 194985 1 1 ",
   "321901 194986 1 1 321833 194987 1 1 68547 194988 1 1 321681 194989 1 1 70915 194990 1 1 ",
   "354467 194991 1 1 354461 194992 1 1 70655 194993 1 1 70079 194994 1 1 354447 194995 1 1 ",
   "321223 194996 1 1 321201 194997 1 1 321181 194998 1 1 321179 194999 1 1 321053 195000 1 1 ",
   "321121 195001 1 1 320855 195002 1 1 320945 195003 1 1 320645 195004 1 1 320809 195005 1 1 ",
   "320677 195006 1 1 320625 195007 1 1 354257 195008 1 1 320447 195009 1 1 320385 195010 1 1 ",
   "354195 195011 1 1 320199 195012 1 1 320195 195013 1 1 67261 195014 1 1 319967 195015 1 1 ",
   "319955 195016 1 1 354087 195017 1 1 319903 195018 1 1 363039 195019 1 1 66107 195020 1 1 ",
   "65741 195021 1 1 353823 195022 1 1 353807 195023 1 1 319071 195024 1 1 318919 195025 1 1 ",
   "318607 195026 1 1 318203 195027 1 1 64087 195028 1 1 318035 195029 1 1 317993 195030 1 1 ",
   "317815 195031 1 1 317633 195032 1 1 62803 195033 1 1 123819 195034 1 1 317471 195035 1 1 ",
   "317503 195036 1 1 317401 195037 1 1 123391 195038 1 1 316949 195039 1 1 316751 195040 1 1 ",
   "59421 195041 1 1 59369 195042 1 1 316061 195043 1 1 315877 195044 1 1 315815 195045 1 1 ",
   "58735 195046 1 1 315799 195047 1 1 315231 195048 2 1 314915 195050 1 1 315101 195051 1 1 ",
   "314341 195052 1 1 314287 195053 1 1 56295 195054 1 1 313543 195055 1 1 352437 195056 1 1 ",
   "313459 195057 1 1 55541 195058 1 1 352281 195059 1 1 312929 195060 1 1 342149 195061 1 1 ",
   "312741 195062 1 1 53603 195063 1 1 53179 195064 1 1 352021 195065 1 1 352007 195066 1 1 ",
   "312373 195067 1 1 52195 195068 1 1 351893 195069 1 1 51919 195070 1 1 312295 195071 1 1 ",
   "312297 195072 1 1 312239 195073 1 1 51351 195074 1 1 311873 195075 1 1 351649 195076 1 1 ",
   "311735 195077 1 1 311485 195078 1 1 311433 195079 1 1 311315 195080 1 1 351349 195081 1 1 ",
   "48563 195082 1 1 310769 195083 1 1 310167 195084 1 1 309791 195085 1 1 350847 195086 1 1 ",
   "350787 195087 1 1 309585 195088 1 1 45701 195089 1 1 350771 195090 1 1 45595 195091 1 1 ",
   "45067 195092 1 1 44807 195093 1 1 308917 195094 1 1 350593 195095 1 1 308797 195096 1 1 ",
   "308789 195097 1 1 308777 195098 1 1 308759 195099 1 1 308747 195100 1 1 308675 195101 1 1 ",
   "43067"]

/-- The characters that are replaced by several. -/
def domainLongMap : List (Nat × List Char) := codeRows
  ["168 2 32 776 175 2 32 772 180 2 32 769 184 2 32 807 188 3 49 8260 52 189 3 49 8260 50 190 3 ",
   "51 8260 52 304 2 105 775 306 2 105 106 307 2 105 106 319 2 108 183 320 2 108 183 329 2 700 ",
   "110 452 2 100 382 453 2 100 382 454 2 100 382 455 2 108 106 456 2 108 106 457 2 108 106 458 ",
   "2 110 106 459 2 110 106 460 2 110 106 497 2 100 122 498 2 100 122 499 2 100 122 728 2 32 ",
   "774 729 2 32 775 730 2 32 778 731 2 32 808 732 2 32 771 733 2 32 779 836 2 776 769 890 2 32 ",
   "953 900 2 32 769 901 3 32 776 769 1415 2 1381 1410 1653 2 1575 1652 1654 2 1608 1652 1655 2 ",
   "1735 1652 1656 2 1610 1652 2392 2 2325 2364 2393 2 2326 2364 2394 2 2327 2364 2395 2 2332 ",
   "2364 2396 2 2337 2364 2397 2 2338 2364 2398 2 2347 2364 2399 2 2351 2364 2524 2 2465 2492 ",
   "2525 2 2466 2492 2527 2 2479 2492 2611 2 2610 2620 2614 2 2616 2620 2649 2 2582 2620 2650 2 ",
   "2583 2620 2651 2 2588 2620 2654 2 2603 2620 2908 2 2849 2876 2909 2 2850 2876 3635 2 3661 ",
   "3634 3763 2 3789 3762 3804 2 3755 3737 3805 2 3755 3745 3907 2 3906 4023 3917 2 3916 4023 ",
   "3922 2 3921 4023 3927 2 3926 4023 3932 2 3931 4023 3945 2 3904 4021 3955 2 3953 3954 3957 2 ",
   "3953 3956 3958 2 4018 3968 3959 3 4018 3953 3968 3960 2 4019 3968 3961 3 4019 3953 3968 ",
   "3969 2 3953 3968 3987 2 3986 4023 3997 2 3996 4023 4002 2 4001 4023 4007 2 4006 4023 4012 2 ",
   "4011 4023 4025 2 3984 4021 7834 2 97 702 8064 2 7936 953 8065 2 7937 953 8066 2 7938 953 ",
   "8067 2 7939 953 8068 2 7940 953 8069 2 7941 953 8070 2 7942 953 8071 2 7943 953 8072 2 7936 ",
   "953 8073 2 7937 953 8074 2 7938 953 8075 2 7939 953 8076 2 7940 953 8077 2 7941 953 8078 2 ",
   "7942 953 8079 2 7943 953 8080 2 7968 953 8081 2 7969 953 8082 2 7970 953 8083 2 7971 953 ",
   "8084 2 7972 953 8085 2 7973 953 8086 2 7974 953 8087 2 7975 953 8088 2 7968 953 8089 2 7969 ",
   "953 8090 2 7970 953 8091 2 7971 953 8092 2 7972 953 8093 2 7973 953 8094 2 7974 953 8095 2 ",
   "7975 953 8096 2 8032 953 8097 2 8033 953 8098 2 8034 953 8099 2 8035 953 8100 2 8036 953 ",
   "8101 2 8037 953 8102 2 8038 953 8103 2 8039 953 8104 2 8032 953 8105 2 8033 953 8106 2 8034 ",
   "953 8107 2 8035 953 8108 2 8036 953 8109 2 8037 953 8110 2 8038 953 8111 2 8039 953 8114 2 ",
   "8048 953 8115 2 945 953 8116 2 940 953 8119 2 8118 953 8124 2 945 953 8125 2 32 787 8127 2 ",
   "32 787 8128 2 32 834 8129 3 32 776 834 8130 2 8052 953 8131 2 951 953 8132 2 942 953 8135 2 ",
   "8134 953 8140 2 951 953 8141 3 32 787 768 8142 3 32 787 769 8143 3 32 787 834 8157 3 32 788 ",
   "768 8158 3 32 788 769 8159 3 32 788 834 8173 3 32 776 768 8174 3 32 776 769 8178 2 8060 953 ",
   "8179 2 969 953 8180 2 974 953 8183 2 8182 953 8188 2 969 953 8189 2 32 769 8190 2 32 788 ",
   "8215 2 32 819 8243 2 8242 8242 8244 3 8242 8242 8242 8246 2 8245 8245 8247 3 8245 8245 8245 ",
   "8252 2 33 33 8254 2 32 773 8263 2 63 63 8264 2 63 33 8265 2 33 63 8279 4 8242 8242 8242 ",
   "8242 8360 2 114 115 8448 3 97 47 99 8449 3 97 47 115 8451 2 176 99 8453 3 99 47 111 8454 3 ",
   "99 47 117 8457 2 176 102 8470 2 110 111 8480 2 115 109 8481 3 116 101 108 8482 2 116 109 ",
   "8507 3 102 97 120 8528 3 49 8260 55 8529 3 49 8260 57 8530 4 49 8260 49 48 8531 3 49 8260 ",
   "51 8532 3 50 8260 51 8533 3 49 8260 53 8534 3 50 8260 53 8535 3 51 8260 53 8536 3 52 8260 ",
   "53 8537 3 49 8260 54 8538 3 53 8260 54 8539 3 49 8260 56 8540 3 51 8260 56 8541 3 53 8260 ",
   "56 8542 3 55 8260 56 8543 2 49 8260 8545 2 105 105 8546 3 105 105 105 8547 2 105 118 8549 2 ",
   "118 105 8550 3 118 105 105 8551 4 118 105 105 105 8552 2 105 120 8554 2 120 105 8555 3 120 ",
   "105 105 8561 2 105 105 8562 3 105 105 105 8563 2 105 118 8565 2 118 105 8566 3 118 105 105 ",
   "8567 4 118 105 105 105 8568 2 105 120 8570 2 120 105 8571 3 120 105 105 8585 3 48 8260 51 ",
   "8748 2 8747 8747 8749 3 8747 8747 8747 8751 2 8750 8750 8752 3 8750 8750 8750 9321 2 49 48 ",
   "9322 2 49 49 9323 2 49 50 9324 2 49 51 9325 2 49 52 9326 2 49 53 9327 2 49 54 9328 2 49 55 ",
   "9329 2 49 56 9330 2 49 57 9331 2 50 48 9332 3 40 49 41 9333 3 40 50 41 9334 3 40 51 41 9335 ",
   "3 40 52 41 9336 3 40 53 41 9337 3 40 54 41 9338 3 40 55 41 9339 3 40 56 41 9340 3 40 57 41 ",
   "9341 4 40 49 48 41 9342 4 40 49 49 41 9343 4 40 49 50 41 9344 4 40 49 51 41 9345 4 40 49 52 ",
   "41 9346 4 40 49 53 41 9347 4 40 49 54 41 9348 4 40 49 55 41 9349 4 40 49 56 41 9350 4 40 49 ",
   "57 41 9351 4 40 50 48 41 9372 3 40 97 41 9373 3 40 98 41 9374 3 40 99 41 9375 3 40 100 41 ",
   "9376 3 40 101 41 9377 3 40 102 41 9378 3 40 103 41 9379 3 40 104 41 9380 3 40 105 41 9381 3 ",
   "40 106 41 9382 3 40 107 41 9383 3 40 108 41 9384 3 40 109 41 9385 3 40 110 41 9386 3 40 111 ",
   "41 9387 3 40 112 41 9388 3 40 113 41 9389 3 40 114 41 9390 3 40 115 41 9391 3 40 116 41 ",
   "9392 3 40 117 41 9393 3 40 118 41 9394 3 40 119 41 9395 3 40 120 41 9396 3 40 121 41 9397 3 ",
   "40 122 41 10764 4 8747 8747 8747 8747 10868 3 58 58 61 10869 2 61 61 10870 3 61 61 61 10972 ",
   "2 10973 824 12443 2 32 12441 12444 2 32 12442 12447 2 12424 12426 12543 2 12467 12488 12800 ",
   "3 40 4352 41 12801 3 40 4354 41 12802 3 40 4355 41 12803 3 40 4357 41 12804 3 40 4358 41 ",
   "12805 3 40 4359 41 12806 3 40 4361 41 12807 3 40 4363 41 12808 3 40 4364 41 12809 3 40 4366 ",
   "41 12810 3 40 4367 41 12811 3 40 4368 41 12812 3 40 4369 41 12813 3 40 4370 41 12814 3 40 ",
   "44032 41 12815 3 40 45208 41 12816 3 40 45796 41 12817 3 40 46972 41 12818 3 40 47560 41 ",
   "12819 3 40 48148 41 12820 3 40 49324 41 12821 3 40 50500 41 12822 3 40 51088 41 12823 3 40 ",
   "52264 41 12824 3 40 52852 41 12825 3 40 53440 41 12826 3 40 54028 41 12827 3 40 54616 41 ",
   "12828 3 40 51452 41 12829 4 40 50724 51204 41 12830 4 40 50724 54980 41 12832 3 40 19968 41 ",
   "12833 3 40 20108 41 12834 3 40 19977 41 12835 3 40 22235 41 12836 3 40 20116 41 12837 3 40 ",
   "20845 41 12838 3 40 19971 41 12839 3 40 20843 41 12840 3 40 20061 41 12841 3 40 21313 41 ",
   "12842 3 40 26376 41 12843 3 40 28779 41 12844 3 40 27700 41 12845 3 40 26408 41 12846 3 40 ",
   "37329 41 12847 3 40 22303 41 12848 3 40 26085 41 12849 3 40 26666 41 12850 3 40 26377 41 ",
   "12851 3 40 31038 41 12852 3 40 21517 41 12853 3 40 29305 41 12854 3 40 36001 41 12855 3 40 ",
   "31069 41 12856 3 40 21172 41 12857 3 40 20195 41 12858 3 40 21628 41 12859 3 40 23398 41 ",
   "12860 3 40 30435 41 12861 3 40 20225 41 12862 3 40 36039 41 12863 3 40 21332 41 12864 3 40 ",
   "31085 41 12865 3 40 20241 41 12866 3 40 33258 41 12867 3 40 33267 41 12880 3 112 116 101 ",
   "12881 2 50 49 12882 2 50 50 12883 2 50 51 12884 2 50 52 12885 2 50 53 12886 2 50 54 12887 2 ",
   "50 55 12888 2 50 56 12889 2 50 57 12890 2 51 48 12891 2 51 49 12892 2 51 50 12893 2 51 51 ",
   "12894 2 51 52 12895 2 51 53 12924 2 52280 44256 12925 2 51452 51032 12977 2 51 54 12978 2 ",
   "51 55 12979 2 51 56 12980 2 51 57 12981 2 52 48 12982 2 52 49 12983 2 52 50 12984 2 52 51 ",
   "12985 2 52 52 12986 2 52 53 12987 2 52 54 12988 2 52 55 12989 2 52 56 12990 2 52 57 12991 2 ",
   "53 48 12992 2 49 26376 12993 2 50 26376 12994 2 51 26376 12995 2 52 26376 12996 2 53 26376 ",
   "12997 2 54 26376 12998 2 55 26376 12999 2 56 26376 13000 2 57 26376 13001 3 49 48 26376 ",
   "13002 3 49 49 26376 13003 3 49 50 26376 13004 2 104 103 13005 3 101 114 103 13006 2 101 118 ",
   "13007 3 108 116 100 13055 2 20196 21644 13056 4 12450 12497 12540 12488 13057 4 12450 12523 ",
   "12501 12449 13058 4 12450 12531 12506 12450 13059 3 12450 12540 12523 13060 4 12452 12491 ",
   "12531 12464 13061 3 12452 12531 12481 13062 3 12454 12457 12531 13063 5 12456 12473 12463 ",
   "12540 12489 13064 4 12456 12540 12459 12540 13065 3 12458 12531 12473 13066 3 12458 12540 ",
   "12512 13067 3 12459 12452 12522 13068 4 12459 12521 12483 12488 13069 4 12459 12525 12522 ",
   "12540 13070 3 12460 12525 12531 13071 3 12460 12531 12510 13072 2 12462 12460 13073 3 12462 ",
   "12491 12540 13074 4 12461 12517 12522 12540 13075 4 12462 12523 12480 12540 13076 2 12461 ",
   "12525 13077 5 12461 12525 12464 12521 12512 13078 6 12461 12525 12513 12540 12488 12523 ",
   "13079 5 12461 12525 12527 12483 12488 13080 3 12464 12521 12512 13081 5 12464 12521 12512 ",
   "12488 12531 13082 5 12463 12523 12476 12452 12525 13083 4 12463 12525 12540 12493 13084 3 ",
   "12465 12540 12473 13085 3 12467 12523 12490 13086 3 12467 12540 12509 13087 4 12469 12452 ",
   "12463 12523 13088 5 12469 12531 12481 12540 12512 13089 4 12471 12522 12531 12464 13090 3 ",
   "12475 12531 12481 13091 3 12475 12531 12488 13092 3 12480 12540 12473 13093 2 12487 12471 ",
   "13094 2 12489 12523 13095 2 12488 12531 13096 2 12490 12494 13097 3 12494 12483 12488 13098 ",
   "3 12495 12452 12484 13099 5 12497 12540 12475 12531 12488 13100 3 12497 12540 12484 13101 4 ",
   "12496 12540 12524 12523 13102 5 12500 12450 12473 12488 12523 13103 3 12500 12463 12523 ",
   "13104 2 12500 12467 13105 2 12499 12523 13106 5 12501 12449 12521 12483 12489 13107 4 12501 ",
   "12451 12540 12488 13108 5 12502 12483 12471 12455 12523 13109 3 12501 12521 12531 13110 5 ",
   "12504 12463 12479 12540 12523 13111 2 12506 12477 13112 3 12506 12491 12498 13113 3 12504 ",
   "12523 12484 13114 3 12506 12531 12473 13115 3 12506 12540 12472 13116 3 12505 12540 12479 ",
   "13117 4 12509 12452 12531 12488 13118 3 12508 12523 12488 13119 2 12507 12531 13120 3 12509 ",
   "12531 12489 13121 3 12507 12540 12523 13122 3 12507 12540 12531 13123 4 12510 12452 12463 ",
   "12525 13124 3 12510 12452 12523 13125 3 12510 12483 12495 13126 3 12510 12523 12463 13127 5 ",
   "12510 12531 12471 12519 12531 13128 4 12511 12463 12525 12531 13129 2 12511 12522 13130 5 ",
   "12511 12522 12496 12540 12523 13131 2 12513 12460 13132 4 12513 12460 12488 12531 13133 4 ",
   "12513 12540 12488 12523 13134 3 12516 12540 12489 13135 3 12516 12540 12523 13136 3 12518 ",
   "12450 12531 13137 4 12522 12483 12488 12523 13138 2 12522 12521 13139 3 12523 12500 12540 ",
   "13140 4 12523 12540 12502 12523 13141 2 12524 12512 13142 5 12524 12531 12488 12466 12531 ",
   "13143 3 12527 12483 12488 13144 2 48 28857 13145 2 49 28857 13146 2 50 28857 13147 2 51 ",
   "28857 13148 2 52 28857 13149 2 53 28857 13150 2 54 28857 13151 2 55 28857 13152 2 56 28857 ",
   "13153 2 57 28857 13154 3 49 48 28857 13155 3 49 49 28857 13156 3 49 50 28857 13157 3 49 51 ",
   "28857 13158 3 49 52 28857 13159 3 49 53 28857 13160 3 49 54 28857 13161 3 49 55 28857 13162 ",
   "3 49 56 28857 13163 3 49 57 28857 13164 3 50 48 28857 13165 3 50 49 28857 13166 3 50 50 ",
   "28857 13167 3 50 51 28857 13168 3 50 52 28857 13169 3 104 112 97 13170 2 100 97 13171 2 97 ",
   "117 13172 3 98 97 114 13173 2 111 118 13174 2 112 99 13175 2 100 109 13176 3 100 109 50 ",
   "13177 3 100 109 51 13178 2 105 117 13179 2 24179 25104 13180 2 26157 21644 13181 2 22823 ",
   "27491 13182 2 26126 27835 13183 4 26666 24335 20250 31038 13184 2 112 97 13185 2 110 97 ",
   "13186 2 956 97 13187 2 109 97 13188 2 107 97 13189 2 107 98 13190 2 109 98 13191 2 103 98 ",
   "13192 3 99 97 108 13193 4 107 99 97 108 13194 2 112 102 13195 2 110 102 13196 2 956 102 ",
   "13197 2 956 103 13198 2 109 103 13199 2 107 103 13200 2 104 122 13201 3 107 104 122 13202 3 ",
   "109 104 122 13203 3 103 104 122 13204 3 116 104 122 13205 2 956 108 13206 2 109 108 13207 2 ",
   "100 108 13208 2 107 108 13209 2 102 109 13210 2 110 109 13211 2 956 109 13212 2 109 109 ",
   "13213 2 99 109 13214 2 107 109 13215 3 109 109 50 13216 3 99 109 50 13217 2 109 50 13218 3 ",
   "107 109 50 13219 3 109 109 51 13220 3 99 109 51 13221 2 109 51 13222 3 107 109 51 13223 3 ",
   "109 8725 115 13224 4 109 8725 115 50 13225 2 112 97 13226 3 107 112 97 13227 3 109 112 97 ",
   "13228 3 103 112 97 13229 3 114 97 100 13230 5 114 97 100 8725 115 13231 6 114 97 100 8725 ",
   "115 50 13232 2 112 115 13233 2 110 115 13234 2 956 115 13235 2 109 115 13236 2 112 118 ",
   "13237 2 110 118 13238 2 956 118 13239 2 109 118 13240 2 107 118 13241 2 109 118 13242 2 112 ",
   "119 13243 2 110 119 13244 2 956 119 13245 2 109 119 13246 2 107 119 13247 2 109 119 13248 2 ",
   "107 969 13249 2 109 969 13251 2 98 113 13252 2 99 99 13253 2 99 100 13254 4 99 8725 107 103 ",
   "13256 2 100 98 13257 2 103 121 13258 2 104 97 13259 2 104 112 13260 2 105 110 13261 2 107 ",
   "107 13262 2 107 109 13263 2 107 116 13264 2 108 109 13265 2 108 110 13266 3 108 111 103 ",
   "13267 2 108 120 13268 2 109 98 13269 3 109 105 108 13270 3 109 111 108 13271 2 112 104 ",
   "13273 3 112 112 109 13274 2 112 114 13275 2 115 114 13276 2 115 118 13277 2 119 98 13278 3 ",
   "118 8725 109 13279 3 97 8725 109 13280 2 49 26085 13281 2 50 26085 13282 2 51 26085 13283 2 ",
   "52 26085 13284 2 53 26085 13285 2 54 26085 13286 2 55 26085 13287 2 56 26085 13288 2 57 ",
   "26085 13289 3 49 48 26085 13290 3 49 49 26085 13291 3 49 50 26085 13292 3 49 51 26085 13293 ",
   "3 49 52 26085 13294 3 49 53 26085 13295 3 49 54 26085 13296 3 49 55 26085 13297 3 49 56 ",
   "26085 13298 3 49 57 26085 13299 3 50 48 26085 13300 3 50 49 26085 13301 3 50 50 26085 13302 ",
   "3 50 51 26085 13303 3 50 52 26085 13304 3 50 53 26085 13305 3 50 54 26085 13306 3 50 55 ",
   "26085 13307 3 50 56 26085 13308 3 50 57 26085 13309 3 51 48 26085 13310 3 51 49 26085 13311 ",
   "3 103 97 108 64256 2 102 102 64257 2 102 105 64258 2 102 108 64259 3 102 102 105 64260 3 ",
   "102 102 108 64261 2 115 116 64262 2 115 116 64275 2 1396 1398 64276 2 1396 1381 64277 2 ",
   "1396 1387 64278 2 1406 1398 64279 2 1396 1389 64285 2 1497 1460 64287 2 1522 1463 64298 2 ",
   "1513 1473 64299 2 1513 1474 64300 3 1513 1468 1473 64301 3 1513 1468 1474 64302 2 1488 1463 ",
   "64303 2 1488 1464 64304 2 1488 1468 64305 2 1489 1468 64306 2 1490 1468 64307 2 1491 1468 ",
   "64308 2 1492 1468 64309 2 1493 1468 64310 2 1494 1468 64312 2 1496 1468 64313 2 1497 1468 ",
   "64314 2 1498 1468 64315 2 1499 1468 64316 2 1500 1468 64318 2 1502 1468 64320 2 1504 1468 ",
   "64321 2 1505 1468 64323 2 1507 1468 64324 2 1508 1468 64326 2 1510 1468 64327 2 1511 1468 ",
   "64328 2 1512 1468 64329 2 1513 1468 64330 2 1514 1468 64331 2 1493 1465 64332 2 1489 1471 ",
   "64333 2 1499 1471 64334 2 1508 1471 64335 2 1488 1500 64477 2 1735 1652 64490 2 1574 1575 ",
   "64491 2 1574 1575 64492 2 1574 1749 64493 2 1574 1749 64494 2 1574 1608 64495 2 1574 1608 ",
   "64496 2 1574 1735 64497 2 1574 1735 64498 2 1574 1734 64499 2 1574 1734 64500 2 1574 1736 ",
   "64501 2 1574 1736 64502 2 1574 1744 64503 2 1574 1744 64504 2 1574 1744 64505 2 1574 1609 ",
   "64506 2 1574 1609 64507 2 1574 1609 64512 2 1574 1580 64513 2 1574 1581 64514 2 1574 1605 ",
   "64515 2 1574 1609 64516 2 1574 1610 64517 2 1576 1580 64518 2 1576 1581 64519 2 1576 1582 ",
   "64520 2 1576 1605 64521 2 1576 1609 64522 2 1576 1610 64523 2 1578 1580 64524 2 1578 1581 ",
   "64525 2 1578 1582 64526 2 1578 1605 64527 2 1578 1609 64528 2 1578 1610 64529 2 1579 1580 ",
   "64530 2 1579 1605 64531 2 1579 1609 64532 2 1579 1610 64533 2 1580 1581 64534 2 1580 1605 ",
   "64535 2 1581 1580 64536 2 1581 1605 64537 2 1582 1580 64538 2 1582 1581 64539 2 1582 1605 ",
   "64540 2 1587 1580 64541 2 1587 1581 64542 2 1587 1582 64543 2 1587 1605 64544 2 1589 1581 ",
   "64545 2 1589 1605 64546 2 1590 1580 64547 2 1590 1581 64548 2 1590 1582 64549 2 1590 1605 ",
   "64550 2 1591 1581 64551 2 1591 1605 64552 2 1592 1605 64553 2 1593 1580 64554 2 1593 1605 ",
   "64555 2 1594 1580 64556 2 1594 1605 64557 2 1601 1580 64558 2 1601 1581 64559 2 1601 1582 ",
   "64560 2 1601 1605 64561 2 1601 1609 64562 2 1601 1610 64563 2 1602 1581 64564 2 1602 1605 ",
   "64565 2 1602 1609 64566 2 1602 1610 64567 2 1603 1575 64568 2 1603 1580 64569 2 1603 1581 ",
   "64570 2 1603 1582 64571 2 1603 1604 64572 2 1603 1605 64573 2 1603 1609 64574 2 1603 1610 ",
   "64575 2 1604 1580 64576 2 1604 1581 64577 2 1604 1582 64578 2 1604 1605 64579 2 1604 1609 ",
   "64580 2 1604 1610 64581 2 1605 1580 64582 2 1605 1581 64583 2 1605 1582 64584 2 1605 1605 ",
   "64585 2 1605 1609 64586 2 1605 1610 64587 2 1606 1580 64588 2 1606 1581 64589 2 1606 1582 ",
   "64590 2 1606 1605 64591 2 1606 1609 64592 2 1606 1610 64593 2 1607 1580 64594 2 1607 1605 ",
   "64595 2 1607 1609 64596 2 1607 1610 64597 2 1610 1580 64598 2 1610 1581 64599 2 1610 1582 ",
   "64600 2 1610 1605 64601 2 1610 1609 64602 2 1610 1610 64603 2 1584 1648 64604 2 1585 1648 ",
   "64605 2 1609 1648 64606 3 32 1612 1617 64607 3 32 1613 1617 64608 3 32 1614 1617 64609 3 32 ",
   "1615 1617 64610 3 32 1616 1617 64611 3 32 1617 1648 64612 2 1574 1585 64613 2 1574 1586 ",
   "64614 2 1574 1605 64615 2 1574 1606 64616 2 1574 1609 64617 2 1574 1610 64618 2 1576 1585 ",
   "64619 2 1576 1586 64620 2 1576 1605 64621 2 1576 1606 64622 2 1576 1609 64623 2 1576 1610 ",
   "64624 2 1578 1585 64625 2 1578 1586 64626 2 1578 1605 64627 2 1578 1606 64628 2 1578 1609 ",
   "64629 2 1578 1610 64630 2 1579 1585 64631 2 1579 1586 64632 2 1579 1605 64633 2 1579 1606 ",
   "64634 2 1579 1609 64635 2 1579 1610 64636 2 1601 1609 64637 2 1601 1610 64638 2 1602 1609 ",
   "64639 2 1602 1610 64640 2 1603 1575 64641 2 1603 1604 64642 2 1603 1605 64643 2 1603 1609 ",
   "64644 2 1603 1610 64645 2 1604 1605 64646 2 1604 1609 64647 2 1604 1610 64648 2 1605 1575 ",
   "64649 2 1605 1605 64650 2 1606 1585 64651 2 1606 1586 64652 2 1606 1605 64653 2 1606 1606 ",
   "64654 2 1606 1609 64655 2 1606 1610 64656 2 1609 1648 64657 2 1610 1585 64658 2 1610 1586 ",
   "64659 2 1610 1605 64660 2 1610 1606 64661 2 1610 1609 64662 2 1610 1610 64663 2 1574 1580 ",
   "64664 2 1574 1581 64665 2 1574 1582 64666 2 1574 1605 64667 2 1574 1607 64668 2 1576 1580 ",
   "64669 2 1576 1581 64670 2 1576 1582 64671 2 1576 1605 64672 2 1576 1607 64673 2 1578 1580 ",
   "64674 2 1578 1581 64675 2 1578 1582 64676 2 1578 1605 64677 2 1578 1607 64678 2 1579 1605 ",
   "64679 2 1580 1581 64680 2 1580 1605 64681 2 1581 1580 64682 2 1581 1605 64683 2 1582 1580 ",
   "64684 2 1582 1605 64685 2 1587 1580 64686 2 1587 1581 64687 2 1587 1582 64688 2 1587 1605 ",
   "64689 2 1589 1581 64690 2 1589 1582 64691 2 1589 1605 64692 2 1590 1580 64693 2 1590 1581 ",
   "64694 2 1590 1582 64695 2 1590 1605 64696 2 1591 1581 64697 2 1592 1605 64698 2 1593 1580 ",
   "64699 2 1593 1605 64700 2 1594 1580 64701 2 1594 1605 64702 2 1601 1580 64703 2 1601 1581 ",
   "64704 2 1601 1582 64705 2 1601 1605 64706 2 1602 1581 64707 2 1602 1605 64708 2 1603 1580 ",
   "64709 2 1603 1581 64710 2 1603 1582 64711 2 1603 1604 64712 2 1603 1605 64713 2 1604 1580 ",
   "64714 2 1604 1581 64715 2 1604 1582 64716 2 1604 1605 64717 2 1604 1607 64718 2 1605 1580 ",
   "64719 2 1605 1581 64720 2 1605 1582 64721 2 1605 1605 64722 2 1606 1580 64723 2 1606 1581 ",
   "64724 2 1606 1582 64725 2 1606 1605 64726 2 1606 1607 64727 2 1607 1580 64728 2 1607 1605 ",
   "64729 2 1607 1648 64730 2 1610 1580 64731 2 1610 1581 64732 2 1610 1582 64733 2 1610 1605 ",
   "64734 2 1610 1607 64735 2 1574 1605 64736 2 1574 1607 64737 2 1576 1605 64738 2 1576 1607 ",
   "64739 2 1578 1605 64740 2 1578 1607 64741 2 1579 1605 64742 2 1579 1607 64743 2 1587 1605 ",
   "64744 2 1587 1607 64745 2 1588 1605 64746 2 1588 1607 64747 2 1603 1604 64748 2 1603 1605 ",
   "64749 2 1604 1605 64750 2 1606 1605 64751 2 1606 1607 64752 2 1610 1605 64753 2 1610 1607 ",
   "64754 3 1600 1614 1617 64755 3 1600 1615 1617 64756 3 1600 1616 1617 64757 2 1591 1609 ",
   "64758 2 1591 1610 64759 2 1593 1609 64760 2 1593 1610 64761 2 1594 1609 64762 2 1594 1610 ",
   "64763 2 1587 1609 64764 2 1587 1610 64765 2 1588 1609 64766 2 1588 1610 64767 2 1581 1609 ",
   "64768 2 1581 1610 64769 2 1580 1609 64770 2 1580 1610 64771 2 1582 1609 64772 2 1582 1610 ",
   "64773 2 1589 1609 64774 2 1589 1610 64775 2 1590 1609 64776 2 1590 1610 64777 2 1588 1580 ",
   "64778 2 1588 1581 64779 2 1588 1582 64780 2 1588 1605 64781 2 1588 1585 64782 2 1587 1585 ",
   "64783 2 1589 1585 64784 2 1590 1585 64785 2 1591 1609 64786 2 1591 1610 64787 2 1593 1609 ",
   "64788 2 1593 1610 64789 2 1594 1609 64790 2 1594 1610 64791 2 1587 1609 64792 2 1587 1610 ",
   "64793 2 1588 1609 64794 2 1588 1610 64795 2 1581 1609 64796 2 1581 1610 64797 2 1580 1609 ",
   "64798 2 1580 1610 64799 2 1582 1609 64800 2 1582 1610 64801 2 1589 1609 64802 2 1589 1610 ",
   "64803 2 1590 1609 64804 2 1590 1610 64805 2 1588 1580 64806 2 1588 1581 64807 2 1588 1582 ",
   "64808 2 1588 1605 64809 2 1588 1585 64810 2 1587 1585 64811 2 1589 1585 64812 2 1590 1585 ",
   "64813 2 1588 1580 64814 2 1588 1581 64815 2 1588 1582 64816 2 1588 1605 64817 2 1587 1607 ",
   "64818 2 1588 1607 64819 2 1591 1605 64820 2 1587 1580 64821 2 1587 1581 64822 2 1587 1582 ",
   "64823 2 1588 1580 64824 2 1588 1581 64825 2 1588 1582 64826 2 1591 1605 64827 2 1592 1605 ",
   "64828 2 1575 1611 64829 2 1575 1611 64848 3 1578 1580 1605 64849 3 1578 1581 1580 64850 3 ",
   "1578 1581 1580 64851 3 1578 1581 1605 64852 3 1578 1582 1605 64853 3 1578 1605 1580 64854 3 ",
   "1578 1605 1581 64855 3 1578 1605 1582 64856 3 1580 1605 1581 64857 3 1580 1605 1581 64858 3 ",
   "1581 1605 1610 64859 3 1581 1605 1609 64860 3 1587 1581 1580 64861 3 1587 1580 1581 64862 3 ",
   "1587 1580 1609 64863 3 1587 1605 1581 64864 3 1587 1605 1581 64865 3 1587 1605 1580 64866 3 ",
   "1587 1605 1605 64867 3 1587 1605 1605 64868 3 1589 1581 1581 64869 3 1589 1581 1581 64870 3 ",
   "1589 1605 1605 64871 3 1588 1581 1605 64872 3 1588 1581 1605 64873 3 1588 1580 1610 64874 3 ",
   "1588 1605 1582 64875 3 1588 1605 1582 64876 3 1588 1605 1605 64877 3 1588 1605 1605 64878 3 ",
   "1590 1581 1609 64879 3 1590 1582 1605 64880 3 1590 1582 1605 64881 3 1591 1605 1581 64882 3 ",
   "1591 1605 1581 64883 3 1591 1605 1605 64884 3 1591 1605 1610 64885 3 1593 1580 1605 64886 3 ",
   "1593 1605 1605 64887 3 1593 1605 1605 64888 3 1593 1605 1609 64889 3 1594 1605 1605 64890 3 ",
   "1594 1605 1610 64891 3 1594 1605 1609 64892 3 1601 1582 1605 64893 3 1601 1582 1605 64894 3 ",
   "1602 1605 1581 64895 3 1602 1605 1605 64896 3 1604 1581 1605 64897 3 1604 1581 1610 64898 3 ",
   "1604 1581 1609 64899 3 1604 1580 1580 64900 3 1604 1580 1580 64901 3 1604 1582 1605 64902 3 ",
   "1604 1582 1605 64903 3 1604 1605 1581 64904 3 1604 1605 1581 64905 3 1605 1581 1580 64906 3 ",
   "1605 1581 1605 64907 3 1605 1581 1610 64908 3 1605 1580 1581 64909 3 1605 1580 1605 64910 3 ",
   "1605 1582 1580 64911 3 1605 1582 1605 64914 3 1605 1580 1582 64915 3 1607 1605 1580 64916 3 ",
   "1607 1605 1605 64917 3 1606 1581 1605 64918 3 1606 1581 1609 64919 3 1606 1580 1605 64920 3 ",
   "1606 1580 1605 64921 3 1606 1580 1609 64922 3 1606 1605 1610 64923 3 1606 1605 1609 64924 3 ",
   "1610 1605 1605 64925 3 1610 1605 1605 64926 3 1576 1582 1610 64927 3 1578 1580 1610 64928 3 ",
   "1578 1580 1609 64929 3 1578 1582 1610 64930 3 1578 1582 1609 64931 3 1578 1605 1610 64932 3 ",
   "1578 1605 1609 64933 3 1580 1605 1610 64934 3 1580 1581 1609 64935 3 1580 1605 1609 64936 3 ",
   "1587 1582 1609 64937 3 1589 1581 1610 64938 3 1588 1581 1610 64939 3 1590 1581 1610 64940 3 ",
   "1604 1580 1610 64941 3 1604 1605 1610 64942 3 1610 1581 1610 64943 3 1610 1580 1610 64944 3 ",
   "1610 1605 1610 64945 3 1605 1605 1610 64946 3 1602 1605 1610 64947 3 1606 1581 1610 64948 3 ",
   "1602 1605 1581 64949 3 1604 1581 1605 64950 3 1593 1605 1610 64951 3 1603 1605 1610 64952 3 ",
   "1606 1580 1581 64953 3 1605 1582 1610 64954 3 1604 1580 1605 64955 3 1603 1605 1605 64956 3 ",
   "1604 1580 1605 64957 3 1606 1580 1581 64958 3 1580 1581 1610 64959 3 1581 1580 1610 64960 3 ",
   "1605 1580 1610 64961 3 1601 1605 1610 64962 3 1576 1581 1610 64963 3 1603 1605 1605 64964 3 ",
   "1593 1580 1605 64965 3 1589 1605 1605 64966 3 1587 1582 1610 64967 3 1606 1580 1610 65008 3 ",
   "1589 1604 1746 65009 3 1602 1604 1746 65010 4 1575 1604 1604 1607 65011 4 1575 1603 1576 ",
   "1585 65012 4 1605 1581 1605 1583 65013 4 1589 1604 1593 1605 65014 4 1585 1587 1608 1604 ",
   "65015 4 1593 1604 1610 1607 65016 4 1608 1587 1604 1605 65017 3 1589 1604 1609 65018 18 ",
   "1589 1604 1609 32 1575 1604 1604 1607 32 1593 1604 1610 1607 32 1608 1587 1604 1605 65019 8 ",
   "1580 1604 32 1580 1604 1575 1604 1607 65020 4 1585 1740 1575 1604 65097 2 32 773 65098 2 32 ",
   "773 65099 2 32 773 65100 2 32 773 65136 2 32 1611 65137 2 1600 1611 65138 2 32 1612 65140 2 ",
   "32 1613 65142 2 32 1614 65143 2 1600 1614 65144 2 32 1615 65145 2 1600 1615 65146 2 32 1616 ",
   "65147 2 1600 1616 65148 2 32 1617 65149 2 1600 1617 65150 2 32 1618 65151 2 1600 1618 65269 ",
   "2 1604 1570 65270 2 1604 1570 65271 2 1604 1571 65272 2 1604 1571 65273 2 1604 1573 65274 2 ",
   "1604 1573 65275 2 1604 1575 65276 2 1604 1575 65507 2 32 772 119134 2 119127 119141 119135 ",
   "2 119128 119141 119136 3 119128 119141 119150 119137 3 119128 119141 119151 119138 3 119128 ",
   "119141 119152 119139 3 119128 119141 119153 119140 3 119128 119141 119154 119227 2 119225 ",
   "119141 119228 2 119226 119141 119229 3 119225 119141 119150 119230 3 119226 119141 119150 ",
   "119231 3 119225 119141 119151 119232 3 119226 119141 119151 127233 2 48 44 127234 2 49 44 ",
   "127235 2 50 44 127236 2 51 44 127237 2 52 44 127238 2 53 44 127239 2 54 44 127240 2 55 44 ",
   "127241 2 56 44 127242 2 57 44 127248 3 40 97 41 127249 3 40 98 41 127250 3 40 99 41 127251 ",
   "3 40 100 41 127252 3 40 101 41 127253 3 40 102 41 127254 3 40 103 41 127255 3 40 104 41 ",
   "127256 3 40 105 41 127257 3 40 106 41 127258 3 40 107 41 127259 3 40 108 41 127260 3 40 109 ",
   "41 127261 3 40 110 41 127262 3 40 111 41 127263 3 40 112 41 127264 3 40 113 41 127265 3 40 ",
   "114 41 127266 3 40 115 41 127267 3 40 116 41 127268 3 40 117 41 127269 3 40 118 41 127270 3 ",
   "40 119 41 127271 3 40 120 41 127272 3 40 121 41 127273 3 40 122 41 127274 3 12308 115 12309 ",
   "127277 2 99 100 127278 2 119 122 127306 2 104 118 127307 2 109 118 127308 2 115 100 127309 ",
   "2 115 115 127310 3 112 112 118 127311 2 119 99 127338 2 109 99 127339 2 109 100 127340 2 ",
   "109 114 127376 2 100 106 127488 2 12411 12363 127489 2 12467 12467 127552 3 12308 26412 ",
   "12309 127553 3 12308 19977 12309 127554 3 12308 20108 12309 127555 3 12308 23433 12309 ",
   "127556 3 12308 28857 12309 127557 3 12308 25171 12309 127558 3 12308 30423 12309 127559 3 ",
   "12308 21213 12309 127560 3 12308 25943 12309"]

/-- The marks, which no part of a name begins with. -/
def markCharacters : CodeRanges := CodeRanges.ofLengths
  ["768 112 275 7 263 45 1 1 1 2 1 2 1 1 72 11 48 21 16 1 101 7 2 6 2 2 1 4 35 1 30 27 91 11 58 ",
   "9 9 1 24 4 1 9 1 3 1 5 43 3 60 8 42 24 1 33 54 3 1 18 1 7 10 2 29 3 56 1 1 7 2 2 2 3 9 1 10 ",
   "2 26 1 2 3 56 1 1 5 4 2 2 3 3 1 30 2 3 1 11 3 56 1 1 8 1 3 1 3 20 2 22 6 1 3 56 1 1 7 2 2 2 ",
   "3 7 3 10 2 30 1 59 5 3 3 1 4 9 1 40 5 55 1 1 7 1 3 1 4 7 2 11 2 29 3 56 1 1 7 1 3 1 4 7 2 ",
   "11 2 28 4 55 2 1 7 1 3 1 4 9 1 10 2 29 3 70 1 4 6 1 1 1 8 18 2 61 1 2 7 12 8 98 1 2 9 11 6 ",
   "74 2 27 1 1 1 1 1 4 2 49 20 1 2 5 11 1 36 9 1 100 20 23 4 4 3 1 3 2 7 3 4 13 12 1 1 10 4 ",
   "703 3 946 4 28 3 29 2 30 2 64 32 9 1 45 3 1 1 117 2 34 1 118 12 4 12 219 5 57 10 1 29 2 1 ",
   "48 31 49 5 47 17 38 9 12 3 30 13 56 14 48 20 152 3 1 21 4 1 6 1 2 3 198 64 720 33 3070 3 ",
   "141 1 96 32 554 6 105 2 30164 4 1 10 32 2 80 2 272 1 3 1 4 1 23 5 4 1 83 2 50 18 26 18 13 1 ",
   "38 8 25 13 44 4 47 14 36 1 67 14 12 1 8 2 45 3 50 1 1 3 2 2 5 2 1 1 41 5 5 2 236 8 1 2 ",
   "20272 1 737 16 16 16 973 1 226 1 149 5 1670 3 1 2 5 4 40 3 4 1 165 2 573 4 387 2 153 11 49 ",
   "4 122 3 53 15 41 1 2 2 10 4 45 11 7 1 61 3 36 14 16 2 44 1 12 3 48 14 8 4 1 2 92 12 6 1 160 ",
   "12 21 4 55 2 1 7 2 2 2 3 9 1 10 2 2 7 3 5 192 18 23 1 81 20 235 7 2 9 27 2 82 17 106 13 101 ",
   "15 256 15 245 6 1 2 2 4 1 1 1 2 141 7 2 7 3 1 28 10 40 7 1 4 8 1 9 11 46 16 405 8 1 8 82 22 ",
   "1 14 122 6 3 1 1 2 1 7 1 1 66 5 1 2 1 5 347 4 19449 5 59 7 1048 1 1 55 7 4 81 1 11 2 19627 ",
   "2 4705 46 2 23 542 5 3 6 8 8 2 7 30 4 148 3 1979 55 4 50 8 1 14 1 22 5 1 15 1360 7 1 17 2 7 ",
   "1 2 1 5 261 7 375 1 61 4 1504 7 109 7 792501 240"]

/-- How characters join their neighbours: 1 on both sides, 2 on the left, 3 on the right, 4 not seen
by them. -/
def joiningTypes : CodeClasses := CodeClasses.ofTriples
  ["173 1 4 594 112 4 275 7 4 263 45 4 1 1 4 1 2 4 1 2 4 1 1 4 72 11 4 1 1 4 3 1 1 1 4 3 0 1 1 ",
   "0 1 3 0 1 1 0 1 3 0 5 1 0 4 3 0 13 1 1 7 1 0 1 3 0 2 1 0 21 4 14 2 1 0 1 4 0 3 3 1 3 3 0 16 ",
   "1 0 18 3 0 38 1 0 1 3 0 2 1 0 9 3 0 1 1 0 1 3 0 1 1 0 1 3 0 2 1 0 2 3 1 1 3 0 7 4 2 6 4 2 2 ",
   "4 1 4 4 0 2 3 10 3 1 2 1 1 15 1 4 0 1 3 0 1 4 0 3 1 0 5 3 0 4 1 0 1 3 0 9 1 0 1 3 0 1 1 0 1 ",
   "3 0 1 1 0 1 3 0 2 1 0 1 3 0 27 4 2 1 3 0 11 1 0 3 3 0 15 1 0 2 3 0 4 1 0 1 3 0 1 1 0 2 3 0 ",
   "3 1 0 2 3 0 6 1 38 11 4 25 33 1 0 9 4 9 1 4 24 4 4 1 9 4 1 3 4 1 5 4 18 1 3 0 5 1 0 2 3 0 1 ",
   "1 0 1 3 0 10 1 0 1 3 0 1 1 0 3 3 0 3 4 4 1 1 1 4 1 1 1 3 0 1 1 0 2 3 5 19 3 3 1 1 2 5 1 0 1 ",
   "3 0 1 1 7 9 4 0 10 1 0 3 3 1 1 3 0 2 1 0 2 3 0 6 1 0 1 3 0 15 1 1 24 4 1 32 4 55 1 4 1 1 4 ",
   "4 8 4 4 1 4 3 7 4 10 2 4 29 1 4 58 1 4 4 4 4 8 1 4 20 2 4 26 1 4 2 2 4 57 1 4 4 2 4 4 2 4 2 ",
   "3 4 3 1 4 30 2 4 3 1 4 11 2 4 57 1 4 4 5 4 1 2 4 4 1 4 20 2 4 22 6 4 1 1 4 58 1 4 2 1 4 1 4 ",
   "4 8 1 4 7 2 4 11 2 4 30 1 4 61 1 4 12 1 4 50 1 4 3 1 4 55 1 4 1 3 4 5 3 4 1 4 4 7 2 4 11 2 ",
   "4 29 1 4 58 1 4 2 1 4 6 1 4 5 2 4 20 2 4 28 2 4 57 2 4 4 4 4 8 1 4 20 2 4 29 1 4 72 1 4 7 3 ",
   "4 1 1 4 90 1 4 2 7 4 12 8 4 98 1 4 2 9 4 11 7 4 73 2 4 27 1 4 1 1 4 1 1 4 55 14 4 1 5 4 1 2 ",
   "4 5 11 4 1 36 4 9 1 4 102 4 4 1 6 4 1 2 4 2 2 4 25 2 4 4 3 4 16 4 4 13 1 4 2 2 4 6 1 4 15 1 ",
   "4 703 3 4 946 3 4 29 2 4 30 2 4 30 2 4 64 2 4 1 7 4 8 1 4 2 11 4 9 1 4 41 1 1 3 3 4 1 1 4 ",
   "16 89 1 12 2 4 0 34 1 0 1 4 0 1 1 117 3 4 4 2 4 9 1 4 6 3 4 219 2 4 2 1 4 58 1 4 1 7 4 1 1 ",
   "4 1 1 4 2 8 4 6 10 4 2 1 4 48 46 4 2 12 4 20 4 4 48 1 4 1 5 4 1 1 4 5 1 4 40 9 4 12 2 4 32 ",
   "4 4 2 2 4 1 3 4 56 1 4 1 2 4 3 1 4 1 3 4 58 8 4 2 2 4 152 3 4 1 13 4 1 7 4 4 1 4 6 1 4 3 2 ",
   "4 198 64 4 523 1 4 2 2 4 26 5 4 49 5 4 5 6 4 96 33 4 3070 3 4 141 1 4 96 32 4 554 4 4 107 2 ",
   "4 30164 4 4 1 10 4 32 2 4 80 2 4 272 1 4 3 1 4 4 1 4 25 2 4 5 1 4 19 50 1 0 1 2 81 2 4 26 ",
   "18 4 13 1 4 38 8 4 25 11 4 46 3 4 48 1 4 2 4 4 2 2 4 39 1 4 67 6 4 2 2 4 2 2 4 12 1 4 8 1 4 ",
   "47 1 4 51 1 4 1 3 4 2 2 4 5 2 4 1 1 4 42 2 4 8 1 4 238 1 4 2 1 4 4 1 4 20272 1 4 737 16 4 ",
   "16 16 4 207 1 4 249 3 4 513 1 4 226 1 4 149 5 4 1670 3 4 1 2 4 5 4 4 40 3 4 4 1 4 128 5 1 0 ",
   "1 3 1 1 3 1 2 3 2 1 2 0 5 3 0 4 1 0 1 2 0 5 1 0 1 3 0 3 1 0 1 3 2 1 3 0 2 4 4 4 1 0 1 3 144 ",
   "1 1 0 1 3 0 1 1 0 3 3 0 3 1 0 1 3 0 2 1 0 1 3 0 1 1 0 2 3 0 1 1 0 1 3 23 4 3 0 2 1 337 1 2 ",
   "0 33 1 0 1 3 0 1 1 0 4 4 65 5 4 317 2 4 21 1 3 0 2 1 1 2 1 50 6 4 48 3 1 0 1 3 0 17 1 1 11 ",
   "4 0 3 1 0 1 3 27 4 1 0 2 3 0 12 1 0 4 4 42 1 1 1 2 1 0 3 3 1 1 1 0 2 3 0 2 1 0 1 3 0 2 1 1 ",
   "1 1 0 2 3 0 1 1 4 1 3 0 1 1 0 1 2 53 1 4 54 15 4 41 1 4 2 2 4 10 3 4 49 4 4 2 2 4 7 1 4 61 ",
   "3 4 36 5 4 1 8 4 62 1 4 12 2 4 52 9 4 10 4 4 2 1 4 95 3 4 2 1 4 1 2 4 6 1 4 2 1 4 157 1 4 3 ",
   "8 4 21 2 4 57 2 4 3 1 4 37 7 4 3 5 4 70 6 4 13 1 4 1 1 4 1 1 4 14 2 4 85 8 4 2 3 4 1 1 4 23 ",
   "1 4 84 6 4 1 1 4 4 2 4 1 2 4 238 4 4 6 2 4 1 2 4 27 2 4 85 8 4 2 1 4 1 2 4 106 1 4 1 1 4 2 ",
   "6 4 1 1 4 101 1 4 1 1 4 2 4 4 1 5 4 259 9 4 1 2 4 256 2 4 1 1 4 4 1 4 144 4 4 2 2 4 4 1 4 ",
   "32 10 4 40 6 4 2 4 4 8 1 4 9 6 4 2 3 4 46 13 4 1 2 4 198 1 4 1 3 4 1 1 4 201 7 4 1 6 4 1 1 ",
   "4 82 22 4 2 7 4 1 2 4 1 2 4 122 6 4 3 1 4 1 2 4 1 7 4 1 1 4 72 2 4 3 1 4 1 1 4 347 2 4 11 2 ",
   "4 52 5 4 5 1 4 1 1 4 23 1 4 5333 17 4 6 15 4 11464 12 4 3 3 4 2496 5 4 59 7 4 1048 1 4 63 4 ",
   "4 81 1 4 19640 2 4 1 4 4 4700 46 4 2 23 4 544 3 4 9 16 4 2 7 4 30 4 4 148 3 4 1979 55 4 4 ",
   "50 4 8 1 4 14 1 4 22 5 4 1 15 4 1360 7 4 1 17 4 2 7 4 1 2 4 1 5 4 100 1 4 160 7 4 375 1 4 ",
   "61 4 4 508 4 4 254 2 4 243 1 4 2 1 4 7 2 4 5 1 4 474 7 4 41 68 1 0 8 4 792245 1 4 30 96 4 ",
   "128 240 4"]

/-- Which way characters run: 0 from left to right, 1 from right to left, 2 so in Arabic script, 3 Arabic
digits, 4 other digits, 5 signs and 6 separators and 7 terminators of numbers, 8 neutral, 9 not seen,
10 as the character before. -/
def directions : CodeClasses := CodeClasses.ofTriples
  ["0 9 9 0 5 8 0 14 9 0 7 8 0 3 7 0 5 8 0 1 5 0 1 6 0 1 5 0 2 6 0 10 4 0 1 6 0 6 8 26 6 8 26 4 ",
   "8 0 1 9 33 1 8 0 4 7 0 2 8 1 1 8 1 2 8 1 1 8 1 2 7 4 2 8 3 1 8 3 1 8 23 1 8 31 1 8 449 2 8 ",
   "7 14 8 2 6 8 6 2 8 5 9 8 1 17 8 0 64 10 2 1 10 3 9 10 1 32 10 5 1 8 128 1 8 140 7 10 256 1 ",
   "8 2 2 8 0 1 7 1 45 10 0 1 1 0 1 10 0 1 1 0 2 10 0 1 1 0 2 10 0 1 1 0 1 10 8 27 1 4 6 1 17 2 ",
   "8 0 1 2 0 2 7 0 1 2 0 1 6 0 1 2 0 2 8 0 11 10 0 1 2 1 46 2 0 21 10 0 10 3 0 1 7 0 2 3 0 3 2 ",
   "0 1 10 0 4 2 4 93 2 0 7 10 1 1 8 0 6 10 0 2 2 0 2 10 0 1 8 0 4 10 0 2 2 0 10 4 0 20 2 2 1 2 ",
   "0 1 10 0 30 2 0 27 10 2 89 2 0 11 10 0 1 2 14 43 1 0 9 10 0 2 1 0 4 8 0 1 1 2 1 10 0 24 1 0 ",
   "4 10 0 1 1 0 9 10 0 1 1 0 3 10 0 1 1 0 5 10 2 15 1 1 25 1 0 3 10 2 1 1 1 11 2 5 31 2 9 8 10 ",
   "0 42 2 0 24 10 1 32 10 55 1 10 1 1 10 4 8 10 4 1 10 3 7 10 10 2 10 29 1 10 58 1 10 4 4 10 8 ",
   "1 10 20 2 10 14 2 7 7 1 7 2 1 10 2 2 10 57 1 10 4 2 10 4 2 10 2 3 10 3 1 10 30 2 10 3 1 10 ",
   "11 2 10 57 1 10 4 5 10 1 2 10 4 1 10 20 2 10 13 1 7 8 6 10 1 1 10 58 1 10 2 1 10 1 4 10 8 1 ",
   "10 7 2 10 11 2 10 30 1 10 61 1 10 12 1 10 37 6 8 0 1 7 0 1 8 5 1 10 3 1 10 55 1 10 1 3 10 5 ",
   "3 10 1 4 10 7 2 10 11 2 10 20 7 8 2 1 10 58 1 10 15 2 10 20 2 10 28 2 10 57 2 10 4 4 10 8 1 ",
   "10 20 2 10 29 1 10 72 1 10 7 3 10 1 1 10 90 1 10 2 7 10 4 1 7 7 8 10 98 1 10 2 9 10 11 6 10 ",
   "74 2 10 27 1 10 1 1 10 1 1 10 0 4 8 51 2 10 1 1 10 5 5 10 1 1 10 1 3 10 1 2 10 5 6 10 1 4 ",
   "10 1 4 10 1 4 10 1 4 10 1 4 10 1 12 10 1 3 10 9 1 10 102 4 10 1 6 10 1 2 10 2 2 10 25 2 10 ",
   "4 3 10 16 4 10 13 1 10 2 2 10 6 1 10 15 1 10 703 3 10 48 10 8 102 1 8 666 2 8 117 3 10 29 2 ",
   "10 30 2 10 30 2 10 67 7 10 8 1 10 2 11 10 7 1 7 1 1 10 18 10 8 6 11 8 122 2 10 34 1 10 118 ",
   "3 10 4 2 10 9 1 10 6 3 10 4 1 8 3 2 8 152 34 8 23 2 10 2 1 10 58 1 10 1 7 10 1 1 10 1 1 10 ",
   "2 8 10 6 10 10 2 1 10 48 31 10 49 4 10 48 1 10 1 5 10 1 1 10 5 1 10 40 9 10 12 2 10 32 4 10 ",
   "2 2 10 1 3 10 56 1 10 1 2 10 3 1 10 1 3 10 58 8 10 2 2 10 152 3 10 1 13 10 1 7 10 4 1 10 6 ",
   "1 10 3 2 10 198 64 10 524 2 9 2 1 8 1 5 8 1 12 8 3 1 8 8 3 7 2 1 8 2 4 8 1 1 8 1 5 8 0 1 6 ",
   "0 2 8 3 13 8 1 7 8 65 8 7 1 24 7 15 33 10 19 1 8 3 1 8 11 1 8 2 2 8 5 2 8 3 1 8 1 1 8 1 1 8 ",
   "1 1 8 4 1 7 11 1 8 6 4 8 5 4 8 60 2 8 4 130 8 0 1 5 0 1 7 0 24 8 2 1 8 2 248 8 2 11 8 69 26 ",
   "8 1 145 8 25 11 8 160 449 8 1 339 8 256 268 8 1 103 8 3 101 8 1 151 8 2 32 8 1 105 8 229 6 ",
   "8 4 3 10 7 7 8 127 1 10 96 32 10 0 94 8 34 26 8 1 4 8 1 83 8 270 1 8 1 2 8 3 25 8 9 4 10 2 ",
   "1 8 6 1 8 5 3 8 89 2 10 5 1 8 90 1 8 196 36 8 7132 64 8 22160 55 8 326 3 8 95 4 10 0 1 8 0 ",
   "10 10 0 2 8 30 2 10 80 2 10 14 34 8 102 1 8 121 1 10 3 1 10 4 1 10 25 2 10 1 4 8 0 1 10 11 ",
   "2 7 58 4 8 76 2 10 26 18 10 13 1 10 38 8 10 25 11 10 46 3 10 48 1 10 2 4 10 2 2 10 39 1 10 ",
   "67 6 10 2 2 10 2 2 10 12 1 10 8 1 10 47 1 10 51 1 10 1 3 10 2 2 10 5 2 10 1 1 10 42 2 10 8 ",
   "1 10 115 2 8 121 1 10 2 1 10 4 1 10 20272 1 10 147 17 2 379 18 8 127 1 8 45 3 8 32 16 10 21 ",
   "2 8 44 1 2 653 1 8 62 77 8 3 13 8 3 1 8 92 1 10 226 1 10 0 27 4 122 5 10 1157 6 1 2 1 1 1 ",
   "44 1 1 2 1 3 1 1 2 23 1 1 72 1 8 9 1 48 19 1 1 2 1 5 33 1 3 1 8 0 26 1 5 1 1 64 56 1 4 20 1 ",
   "2 47 1 0 3 10 1 2 10 5 4 10 0 4 1 1 3 1 1 29 1 2 3 10 4 1 10 0 9 1 7 9 1 7 64 1 32 37 1 0 2 ",
   "10 4 12 1 9 54 1 3 7 8 0 22 1 2 27 1 5 26 1 7 4 1 12 7 1 80 73 1 119 51 1 7 6 1 0 36 2 0 4 ",
   "10 8 10 3 294 31 3 1 42 1 1 2 10 0 1 1 2 2 1 78 40 1 8 22 2 0 11 10 0 9 2 22 18 1 0 4 10 0 ",
   "4 1 38 28 1 20 23 1 10 1 10 54 15 10 11 20 8 10 1 10 2 2 10 10 3 10 49 4 10 2 2 10 7 1 10 ",
   "61 3 10 36 5 10 1 8 10 62 1 10 12 2 10 52 9 10 10 4 10 2 1 10 95 3 10 2 1 10 1 2 10 6 1 10 ",
   "160 1 10 3 8 10 21 2 10 57 2 10 3 1 10 37 7 10 3 5 10 195 8 10 2 3 10 1 1 10 23 1 10 84 6 ",
   "10 1 1 10 4 2 10 1 2 10 238 4 10 6 2 10 1 2 10 27 2 10 85 8 10 2 1 10 1 2 10 31 13 8 62 1 ",
   "10 1 1 10 2 6 10 1 1 10 101 3 10 2 4 10 1 5 10 259 9 10 1 2 10 256 2 10 1 1 10 4 1 10 144 4 ",
   "10 2 2 10 4 1 10 32 6 10 2 2 10 40 6 10 2 4 10 8 1 10 9 6 10 2 3 10 46 13 10 1 2 10 406 7 ",
   "10 1 6 10 84 22 10 2 7 10 1 2 10 1 2 10 122 6 10 3 1 10 1 2 10 1 7 10 1 1 10 72 2 10 3 1 10 ",
   "1 1 10 347 2 10 224 8 8 0 4 7 0 17 8 19198 5 10 59 7 10 1048 1 10 63 4 10 79 1 8 1 1 10 ",
   "19640 2 10 4705 46 10 2 23 10 544 3 10 17 8 10 2 7 10 30 4 10 59 2 8 21 66 8 0 3 10 0 1 8 ",
   "186 87 8 1705 55 10 4 50 10 8 1 10 14 1 10 22 5 10 1 15 10 1360 7 10 1 17 10 2 7 10 1 2 10 ",
   "1 5 10 261 7 10 375 1 10 61 4 10 15 1 7 1280 197 1 2 9 1 0 7 10 75 34 1 0 7 10 0 1 1 4 10 1 ",
   "4 2 1 785 68 2 76 61 2 434 2 8 270 44 8 4 100 8 12 15 8 2 15 8 1 15 8 1 37 8 21 5 8 31 1 8 ",
   "61 3 8 61 1 8 178 6 8 154 984 8 5 16 8 3 13 8 3 116 8 12 89 8 7 12 8 4 1 8 15 12 8 4 56 8 8 ",
   "10 8 6 40 8 8 30 8 2 2 8 78 340 8 12 14 8 2 5 8 3 5 8 3 7 8 9 29 8 3 11 8 5 6 8 10 10 8 6 8 ",
   "8 8 7 8 9 147 8 1 55 8"]

end ScalpBot
