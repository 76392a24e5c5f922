import CalendarSeries.Zone.Basic
/-!
The zones that are known by name, with every change of their clocks that is on record and the
rule for the time after the last one.
-/
namespace CalendarSeries.Zone

def universal : Zone :=
  ofTable "UTC" [⟨0, 0⟩]
    [] (.fixed ⟨0, 0⟩)

def fiveWest : Zone :=
  ofTable "Etc/GMT+5" [⟨-18000, 0⟩]
    [] (.fixed ⟨-18000, 0⟩)

def newYorkChanges : List (Int × Nat) :=
  [(-2717650800, 1), (-1633280400, 2), (-1615140000, 1), (-1601830800, 2), (-1583690400, 1),
   (-1570381200, 2), (-1551636000, 1), (-1536512400, 2), (-1523210400, 1), (-1504458000, 2),
   (-1491760800, 1), (-1473008400, 2), (-1459706400, 1), (-1441558800, 2), (-1428256800, 1),
   (-1410109200, 2), (-1396807200, 1), (-1378659600, 2), (-1365357600, 1), (-1347210000, 2),
   (-1333908000, 1), (-1315155600, 2), (-1301853600, 1), (-1283706000, 2), (-1270404000, 1),
   (-1252256400, 2), (-1238954400, 1), (-1220806800, 2), (-1207504800, 1), (-1189357200, 2),
   (-1176055200, 1), (-1157302800, 2), (-1144605600, 1), (-1125853200, 2), (-1112551200, 1),
   (-1094403600, 2), (-1081101600, 1), (-1062954000, 2), (-1049652000, 1), (-1031504400, 2),
   (-1018202400, 1), (-1000054800, 2), (-986752800, 1), (-968000400, 2), (-955303200, 1),
   (-936550800, 2), (-923248800, 1), (-905101200, 2), (-891799200, 1), (-880218000, 2),
   (-769395600, 2), (-765396000, 1), (-747248400, 2), (-733946400, 1), (-715798800, 2),
   (-702496800, 1), (-684349200, 2), (-671047200, 1), (-652899600, 2), (-639597600, 1),
   (-620845200, 2), (-608148000, 1), (-589395600, 2), (-576093600, 1), (-557946000, 2),
   (-544644000, 1), (-526496400, 2), (-513194400, 1), (-495046800, 2), (-481744800, 1),
   (-463597200, 2), (-447271200, 1), (-431542800, 2), (-415821600, 1), (-400093200, 2),
   (-384372000, 1), (-368643600, 2), (-352922400, 1), (-337194000, 2), (-321472800, 1),
   (-305744400, 2), (-289418400, 1), (-273690000, 2), (-257968800, 1), (-242240400, 2),
   (-226519200, 1), (-210790800, 2), (-195069600, 1), (-179341200, 2), (-163620000, 1),
   (-147891600, 2), (-131565600, 1), (-116442000, 2), (-100116000, 1), (-84387600, 2),
   (-68666400, 1), (-52938000, 2), (-37216800, 1), (-21488400, 2), (-5767200, 1), (9961200, 2),
   (25682400, 1), (41410800, 2), (57736800, 1), (73465200, 2), (89186400, 1), (104914800, 2),
   (120636000, 1), (126687600, 2), (152085600, 1), (162370800, 2), (183535200, 1), (199263600, 2),
   (215589600, 1), (230713200, 2), (247039200, 1), (262767600, 2), (278488800, 1), (294217200, 2),
   (309938400, 1), (325666800, 2), (341388000, 1), (357116400, 2), (372837600, 1), (388566000, 2),
   (404892000, 1), (420015600, 2), (436341600, 1), (452070000, 2), (467791200, 1), (483519600, 2),
   (499240800, 1), (514969200, 2), (530690400, 1), (544604400, 2), (562140000, 1), (576054000, 2),
   (594194400, 1), (607503600, 2), (625644000, 1), (638953200, 2), (657093600, 1), (671007600, 2),
   (688543200, 1), (702457200, 2), (719992800, 1), (733906800, 2), (752047200, 1), (765356400, 2),
   (783496800, 1), (796806000, 2), (814946400, 1), (828860400, 2), (846396000, 1), (860310000, 2),
   (877845600, 1), (891759600, 2), (909295200, 1), (923209200, 2), (941349600, 1), (954658800, 2),
   (972799200, 1), (986108400, 2), (1004248800, 1), (1018162800, 2), (1035698400, 1),
   (1049612400, 2), (1067148000, 1), (1081062000, 2), (1099202400, 1), (1112511600, 2),
   (1130652000, 1), (1143961200, 2), (1162101600, 1), (1173596400, 2)]

def newYork : Zone :=
  ofTable "America/New_York" [⟨-17762, 0⟩, ⟨-18000, 0⟩, ⟨-14400, 3600⟩]
    newYorkChanges
    (.yearly ⟨-18000, 0⟩ ⟨-14400, 3600⟩ ⟨3, 2, 0, 7200⟩ ⟨11, 1, 0, 7200⟩)

def brusselsChanges : List (Int × Nat) :=
  [(-2840141850, 0), (-2450995200, 1), (-1740355200, 2), (-1693702800, 3), (-1680483600, 2),
   (-1663455600, 3), (-1650150000, 2), (-1632006000, 3), (-1618700400, 2), (-1613826000, 1),
   (-1604278800, 4), (-1585530000, 1), (-1574038800, 4), (-1552266000, 1), (-1539997200, 4),
   (-1520557200, 1), (-1507510800, 4), (-1490576400, 1), (-1473642000, 4), (-1459126800, 1),
   (-1444006800, 4), (-1427677200, 1), (-1411952400, 4), (-1396227600, 1), (-1379293200, 4),
   (-1364778000, 1), (-1348448400, 4), (-1333328400, 1), (-1316394000, 4), (-1301263200, 1),
   (-1284328800, 4), (-1269813600, 1), (-1253484000, 4), (-1238364000, 1), (-1221429600, 4),
   (-1206914400, 1), (-1191189600, 4), (-1175464800, 1), (-1160344800, 4), (-1143410400, 1),
   (-1127685600, 4), (-1111960800, 1), (-1096840800, 4), (-1080511200, 1), (-1063576800, 4),
   (-1049061600, 1), (-1033336800, 4), (-1017612000, 1), (-1002492000, 4), (-986162400, 1),
   (-969228000, 4), (-950479200, 1), (-942012000, 4), (-934668000, 3), (-857257200, 2),
   (-844556400, 3), (-828226800, 2), (-812502000, 3), (-798073200, 2), (-781052400, 3),
   (-766623600, 2), (-745455600, 3), (-733273200, 2), (228877200, 3), (243997200, 2),
   (260326800, 3), (276051600, 2), (291776400, 3), (307501200, 2), (323830800, 3), (338950800, 2),
   (354675600, 3), (370400400, 2), (386125200, 3), (401850000, 2), (417574800, 3), (433299600, 2),
   (449024400, 3), (465354000, 2), (481078800, 3), (496803600, 2), (512528400, 3), (528253200, 2),
   (543978000, 3), (559702800, 2), (575427600, 3), (591152400, 2), (606877200, 3), (622602000, 2),
   (638326800, 3), (654656400, 2), (670381200, 3), (686106000, 2), (701830800, 3), (717555600, 2),
   (733280400, 3), (749005200, 2), (764730000, 3), (780454800, 2), (796179600, 3), (811904400, 2),
   (828234000, 3)]

def brussels : Zone :=
  ofTable "Europe/Brussels" [⟨1050, 0⟩, ⟨0, 0⟩, ⟨3600, 0⟩, ⟨7200, 3600⟩, ⟨3600, 3600⟩]
    brusselsChanges
    (.yearly ⟨3600, 0⟩ ⟨7200, 3600⟩ ⟨3, 5, 0, 7200⟩ ⟨10, 5, 0, 10800⟩)

def londonChanges : List (Int × Nat) :=
  [(-3852662325, 1), (-1691964000, 2), (-1680472800, 1), (-1664143200, 2), (-1650146400, 1),
   (-1633903200, 2), (-1617487200, 1), (-1601848800, 2), (-1586037600, 1), (-1570399200, 2),
   (-1552168800, 1), (-1538344800, 2), (-1522533600, 1), (-1507500000, 2), (-1490565600, 1),
   (-1473631200, 2), (-1460930400, 1), (-1442786400, 2), (-1428876000, 1), (-1410732000, 2),
   (-1396216800, 1), (-1379282400, 2), (-1364767200, 1), (-1348437600, 2), (-1333317600, 1),
   (-1315778400, 2), (-1301263200, 1), (-1284328800, 2), (-1269813600, 1), (-1253484000, 2),
   (-1238364000, 1), (-1221429600, 2), (-1206914400, 1), (-1189980000, 2), (-1175464800, 1),
   (-1159135200, 2), (-1143410400, 1), (-1126476000, 2), (-1111960800, 1), (-1095631200, 2),
   (-1080511200, 1), (-1063576800, 2), (-1049061600, 1), (-1032127200, 2), (-1017612000, 1),
   (-1001282400, 2), (-986162400, 1), (-969228000, 2), (-950479200, 1), (-942012000, 2),
   (-904518000, 3), (-896050800, 2), (-875487600, 3), (-864601200, 2), (-844038000, 3),
   (-832546800, 2), (-812588400, 3), (-798073200, 2), (-781052400, 3), (-772066800, 2),
   (-764805600, 1), (-748476000, 2), (-733356000, 1), (-719445600, 2), (-717030000, 3),
   (-706748400, 2), (-699487200, 1), (-687996000, 2), (-668037600, 1), (-654732000, 2),
   (-636588000, 1), (-622072800, 2), (-605743200, 1), (-590623200, 2), (-574293600, 1),
   (-558568800, 2), (-542239200, 1), (-527119200, 2), (-512604000, 1), (-496274400, 2),
   (-481154400, 1), (-464220000, 2), (-449704800, 1), (-432165600, 2), (-417650400, 1),
   (-401320800, 2), (-386200800, 1), (-369266400, 2), (-354751200, 1), (-337816800, 2),
   (-323301600, 1), (-306972000, 2), (-291852000, 1), (-276732000, 2), (-257983200, 1),
   (-245282400, 2), (-226533600, 1), (-213228000, 2), (-195084000, 1), (-182383200, 2),
   (-163634400, 1), (-150933600, 2), (-132184800, 1), (-119484000, 2), (-100735200, 1),
   (-88034400, 2), (-68680800, 1), (-59004000, 2), (-37242000, 4), (57722400, 1), (69818400, 2),
   (89172000, 1), (101268000, 2), (120621600, 1), (132717600, 2), (152071200, 1), (164167200, 2),
   (183520800, 1), (196221600, 2), (214970400, 1), (227671200, 2), (246420000, 1), (259120800, 2),
   (278474400, 1), (290570400, 2), (309924000, 1), (322020000, 2), (341373600, 1), (354675600, 2),
   (372819600, 1), (386125200, 2), (404269200, 1), (417574800, 2), (435718800, 1), (449024400, 2),
   (467773200, 1), (481078800, 2), (499222800, 1), (512528400, 2), (530672400, 1), (543978000, 2),
   (562122000, 1), (575427600, 2), (593571600, 1), (606877200, 2), (625626000, 1), (638326800, 2),
   (657075600, 1), (670381200, 2), (688525200, 1), (701830800, 2), (719974800, 1), (733280400, 2),
   (751424400, 1), (764730000, 2), (782874000, 1), (796179600, 2), (814323600, 1), (820454400, 1)]

def london : Zone :=
  ofTable "Europe/London" [⟨-75, 0⟩, ⟨0, 0⟩, ⟨3600, 3600⟩, ⟨7200, 3600⟩, ⟨3600, 0⟩]
    londonChanges
    (.yearly ⟨0, 0⟩ ⟨3600, 3600⟩ ⟨3, 5, 0, 3600⟩ ⟨10, 5, 0, 7200⟩)

def dublinChanges : List (Int × Nat) :=
  [(-2821649679, 0), (-1691962479, 1), (-1680471279, 2), (-1664143200, 3), (-1650146400, 2),
   (-1633903200, 3), (-1617487200, 2), (-1601848800, 3), (-1586037600, 2), (-1570399200, 3),
   (-1552168800, 2), (-1538344800, 3), (-1522533600, 2), (-1507500000, 3), (-1490565600, 2),
   (-1473631200, 3), (-1460930400, 2), (-1442786400, 3), (-1428876000, 2), (-1410732000, 3),
   (-1396216800, 2), (-1379282400, 3), (-1364767200, 2), (-1348437600, 3), (-1333317600, 2),
   (-1315778400, 3), (-1301263200, 2), (-1284328800, 3), (-1269813600, 2), (-1253484000, 3),
   (-1238364000, 2), (-1221429600, 3), (-1206914400, 2), (-1189980000, 3), (-1175464800, 2),
   (-1159135200, 3), (-1143410400, 2), (-1126476000, 3), (-1111960800, 2), (-1095631200, 3),
   (-1080511200, 2), (-1063576800, 3), (-1049061600, 2), (-1032127200, 3), (-1017612000, 2),
   (-1001282400, 3), (-986162400, 2), (-969228000, 3), (-950479200, 2), (-942012000, 3),
   (-733356000, 2), (-719445600, 3), (-699487200, 2), (-684972000, 3), (-668037600, 2),
   (-654732000, 3), (-636588000, 2), (-622072800, 3), (-605743200, 2), (-590623200, 3),
   (-574293600, 2), (-558568800, 3), (-542239200, 2), (-527119200, 3), (-512604000, 2),
   (-496274400, 3), (-481154400, 2), (-464220000, 3), (-449704800, 2), (-432165600, 3),
   (-417650400, 2), (-401320800, 3), (-386200800, 2), (-369266400, 3), (-354751200, 2),
   (-337816800, 3), (-323301600, 2), (-306972000, 3), (-291852000, 2), (-276732000, 3),
   (-257983200, 2), (-245282400, 3), (-226533600, 2), (-213228000, 3), (-195084000, 2),
   (-182383200, 3), (-163634400, 2), (-150933600, 3), (-132184800, 2), (-119484000, 3),
   (-100735200, 2), (-88034400, 3), (-68680800, 2), (-59004000, 3), (-37242000, 4), (57722400, 5),
   (69818400, 4), (89172000, 5), (101268000, 4), (120621600, 5), (132717600, 4), (152071200, 5),
   (164167200, 4), (183520800, 5), (196221600, 4), (214970400, 5), (227671200, 4), (246420000, 5),
   (259120800, 4), (278474400, 5), (290570400, 4), (309924000, 5), (322020000, 4), (341373600, 5),
   (354675600, 4), (372819600, 5), (386125200, 4), (404269200, 5), (417574800, 4), (435718800, 5),
   (449024400, 4), (467773200, 5), (481078800, 4), (499222800, 5), (512528400, 4), (530672400, 5),
   (543978000, 4), (562122000, 5), (575427600, 4), (593571600, 5), (606877200, 4), (625626000, 5),
   (638326800, 4), (657075600, 5), (670381200, 4), (688525200, 5), (701830800, 4), (719974800, 5),
   (733280400, 4), (751424400, 5), (764730000, 4), (782874000, 5), (796179600, 4), (814323600, 5),
   (828234000, 4)]

def dublin : Zone :=
  ofTable "Europe/Dublin" [⟨-1521, 0⟩, ⟨2079, 3600⟩, ⟨0, 0⟩, ⟨3600, 3600⟩, ⟨3600, 0⟩, ⟨0, -3600⟩]
    dublinChanges
    (.yearly ⟨3600, 0⟩ ⟨0, -3600⟩ ⟨10, 5, 0, 7200⟩ ⟨3, 5, 0, 3600⟩)

def lordHoweChanges : List (Int × Nat) :=
  [(-2364114980, 1), (352216800, 2), (372785400, 3), (384273000, 2), (404839800, 3),
   (415722600, 2), (436289400, 3), (447172200, 2), (467739000, 3), (478621800, 2), (499188600, 4),
   (511282800, 2), (530033400, 4), (542732400, 2), (562087800, 4), (574786800, 2), (594142200, 4),
   (606236400, 2), (625591800, 4), (636476400, 2), (657041400, 4), (667926000, 2), (688491000, 4),
   (699375600, 2), (719940600, 4), (731430000, 2), (751995000, 4), (762879600, 2), (783444600, 4),
   (794329200, 2), (814894200, 4), (828198000, 2), (846343800, 4), (859647600, 2), (877793400, 4),
   (891097200, 2), (909243000, 4), (922546800, 2), (941297400, 4), (953996400, 2), (967303800, 4),
   (985446000, 2), (1004196600, 4), (1017500400, 2), (1035646200, 4), (1048950000, 2),
   (1067095800, 4), (1080399600, 2), (1099150200, 4), (1111849200, 2), (1130599800, 4),
   (1143903600, 2), (1162049400, 4), (1174748400, 2), (1193499000, 4), (1207407600, 2)]

def lordHowe : Zone :=
  ofTable "Australia/Lord_Howe" [⟨38180, 0⟩, ⟨36000, 0⟩, ⟨37800, 0⟩, ⟨41400, 3600⟩, ⟨39600, 1800⟩]
    lordHoweChanges
    (.yearly ⟨37800, 0⟩ ⟨39600, 1800⟩ ⟨10, 1, 0, 7200⟩ ⟨4, 1, 0, 7200⟩)

def saoPauloChanges : List (Int × Nat) :=
  [(-1767214412, 1), (-1206957600, 2), (-1191362400, 1), (-1175374800, 2), (-1159826400, 1),
   (-633819600, 2), (-622069200, 1), (-602283600, 2), (-591832800, 1), (-570747600, 2),
   (-560210400, 1), (-539125200, 2), (-531352800, 1), (-195426000, 2), (-184197600, 1),
   (-155163600, 2), (-150069600, 1), (-128898000, 2), (-121125600, 1), (-99954000, 2),
   (-89589600, 1), (-68418000, 2), (-57967200, 1), (499748400, 2), (511236000, 1), (530593200, 2),
   (540266400, 1), (562129200, 2), (571197600, 1), (592974000, 2), (602042400, 1), (624423600, 2),
   (634701600, 1), (656478000, 2), (666756000, 1), (687927600, 2), (697600800, 1), (719982000, 2),
   (728445600, 1), (750826800, 2), (761709600, 1), (782276400, 2), (793159200, 1), (813726000, 2),
   (824004000, 1), (844570800, 2), (856058400, 1), (876106800, 2), (888717600, 1), (908074800, 2),
   (919562400, 1), (938919600, 2), (951616800, 1), (970974000, 2), (982461600, 1), (1003028400, 2),
   (1013911200, 1), (1036292400, 2), (1045360800, 1), (1066532400, 2), (1076810400, 1),
   (1099364400, 2), (1108864800, 1), (1129431600, 2), (1140314400, 1), (1162695600, 2),
   (1172368800, 1), (1192330800, 2), (1203213600, 1), (1224385200, 2), (1234663200, 1),
   (1255834800, 2), (1266717600, 1), (1287284400, 2), (1298167200, 1), (1318734000, 2),
   (1330221600, 1), (1350788400, 2), (1361066400, 1), (1382238000, 2), (1392516000, 1),
   (1413687600, 2), (1424570400, 1), (1445137200, 2), (1456020000, 1), (1476586800, 2),
   (1487469600, 1), (1508036400, 2), (1518919200, 1), (1541300400, 2), (1550368800, 1)]

def saoPaulo : Zone :=
  ofTable "America/Sao_Paulo" [⟨-11188, 0⟩, ⟨-10800, 0⟩, ⟨-7200, 3600⟩]
    saoPauloChanges (.fixed ⟨-10800, 0⟩)

def apiaChanges : List (Int × Nat) :=
  [(-2445424384, 1), (-1861878784, 2), (-631110600, 3), (1285498800, 4), (1301752800, 3),
   (1316872800, 4), (1325239200, 5), (1333202400, 6), (1348927200, 5), (1365256800, 6),
   (1380376800, 5), (1396706400, 6), (1411826400, 5), (1428156000, 6), (1443276000, 5),
   (1459605600, 6), (1474725600, 5), (1491055200, 6), (1506175200, 5), (1522504800, 6),
   (1538229600, 5), (1554559200, 6), (1569679200, 5), (1586008800, 6), (1601128800, 5),
   (1617458400, 6)]

def apia : Zone :=
  ofTable "Pacific/Apia" [⟨45184, 0⟩, ⟨-41216, 0⟩, ⟨-41400, 0⟩, ⟨-39600, 0⟩, ⟨-36000, 3600⟩, ⟨50400, 3600⟩, ⟨46800, 0⟩]
    apiaChanges (.fixed ⟨46800, 0⟩)

def kathmanduChanges : List (Int × Nat) :=
  [(-1577943676, 1), (504901800, 2)]

def kathmandu : Zone :=
  ofTable "Asia/Kathmandu" [⟨20476, 0⟩, ⟨19800, 0⟩, ⟨20700, 0⟩]
    kathmanduChanges (.fixed ⟨20700, 0⟩)

def tokyoChanges : List (Int × Nat) :=
  [(-2587712400, 1), (-683802000, 2), (-672310800, 1), (-654771600, 2), (-640861200, 1),
   (-620298000, 2), (-609411600, 1), (-588848400, 2), (-577962000, 1)]

def tokyo : Zone :=
  ofTable "Asia/Tokyo" [⟨33539, 0⟩, ⟨32400, 0⟩, ⟨36000, 3600⟩]
    tokyoChanges (.fixed ⟨32400, 0⟩)

def monroviaChanges : List (Int × Nat) :=
  [(-2776979812, 0), (-1604359012, 1), (63593070, 2)]

def monrovia : Zone :=
  ofTable "Africa/Monrovia" [⟨-2588, 0⟩, ⟨-2670, 0⟩, ⟨0, 0⟩]
    monroviaChanges (.fixed ⟨0, 0⟩)

def stJohnsChanges : List (Int × Nat) :=
  [(-2713897748, 0), (-1664130548, 1), (-1650137348, 0), (-1632076148, 1), (-1615145348, 0),
   (-1598650148, 1), (-1590100148, 0), (-1567286948, 1), (-1551565748, 0), (-1535837348, 1),
   (-1520116148, 0), (-1503782948, 1), (-1488666548, 0), (-1472333348, 1), (-1457216948, 0),
   (-1440883748, 1), (-1425767348, 0), (-1409434148, 1), (-1394317748, 0), (-1377984548, 1),
   (-1362263348, 0), (-1346534948, 1), (-1330813748, 0), (-1314480548, 1), (-1299364148, 0),
   (-1283030948, 1), (-1267914548, 0), (-1251581348, 1), (-1236464948, 0), (-1220131748, 1),
   (-1205015348, 0), (-1188682148, 1), (-1172960948, 0), (-1156627748, 1), (-1141511348, 0),
   (-1125178148, 1), (-1110061748, 0), (-1096921748, 2), (-1093728600, 3), (-1078612200, 2),
   (-1061670600, 3), (-1048973400, 2), (-1030221000, 3), (-1017523800, 2), (-998771400, 3),
   (-986074200, 2), (-966717000, 3), (-954624600, 2), (-935267400, 3), (-922570200, 2),
   (-903817800, 3), (-891120600, 2), (-872368200, 3), (-769395600, 3), (-765401400, 2),
   (-746044200, 3), (-733347000, 2), (-714594600, 3), (-701897400, 2), (-683145000, 3),
   (-670447800, 2), (-651695400, 3), (-638998200, 2), (-619641000, 3), (-606943800, 2),
   (-589401000, 3), (-576099000, 2), (-557951400, 3), (-544649400, 2), (-526501800, 3),
   (-513199800, 2), (-495052200, 3), (-481750200, 2), (-463602600, 3), (-450300600, 2),
   (-431548200, 3), (-418246200, 2), (-400098600, 3), (-386796600, 2), (-368649000, 3),
   (-355347000, 2), (-337199400, 3), (-323897400, 2), (-305749800, 3), (-289423800, 2),
   (-273695400, 3), (-257974200, 2), (-242245800, 3), (-226524600, 2), (-210796200, 3),
   (-195075000, 2), (-179346600, 3), (-163625400, 2), (-147897000, 3), (-131571000, 2),
   (-116447400, 3), (-100121400, 2), (-84393000, 3), (-68671800, 2), (-52943400, 3),
   (-37222200, 2), (-21493800, 3), (-5772600, 2), (9955800, 3), (25677000, 2), (41405400, 3),
   (57731400, 2), (73459800, 3), (89181000, 2), (104909400, 3), (120630600, 2), (136359000, 3),
   (152080200, 2), (167808600, 3), (183529800, 2), (199258200, 3), (215584200, 2), (230707800, 3),
   (247033800, 2), (262762200, 3), (278483400, 2), (294211800, 3), (309933000, 2), (325661400, 3),
   (341382600, 2), (357111000, 3), (372832200, 2), (388560600, 3), (404886600, 2), (420010200, 3),
   (436336200, 2), (452064600, 3), (467785800, 2), (483514200, 3), (499235400, 2), (514963800, 3),
   (530685000, 2), (544591860, 3), (562127460, 2), (576041460, 4), (594178260, 2), (607491060, 3),
   (625631460, 2), (638940660, 3), (657081060, 2), (670995060, 3), (688530660, 2), (702444660, 3),
   (719980260, 2), (733894260, 3), (752034660, 2), (765343860, 3), (783484260, 2), (796793460, 3),
   (814933860, 2), (828847860, 3), (846383460, 2), (860297460, 3), (877833060, 2), (891747060, 3),
   (909282660, 2), (923196660, 3), (941337060, 2), (954646260, 3), (972786660, 2), (986095860, 3),
   (1004236260, 2), (1018150260, 3), (1035685860, 2), (1049599860, 3), (1067135460, 2),
   (1081049460, 3), (1099189860, 2), (1112499060, 3), (1130639460, 2), (1143948660, 3),
   (1162089060, 2), (1173583860, 3), (1194143460, 2), (1205033460, 3), (1225593060, 2),
   (1236483060, 3), (1257042660, 2), (1268537460, 3), (1289097060, 2), (1299987060, 3),
   (1320114600, 3)]

def stJohns : Zone :=
  ofTable "America/St_Johns" [⟨-12652, 0⟩, ⟨-9052, 3600⟩, ⟨-12600, 0⟩, ⟨-9000, 3600⟩, ⟨-5400, 7200⟩]
    stJohnsChanges
    (.yearly ⟨-12600, 0⟩ ⟨-9000, 3600⟩ ⟨3, 2, 0, 7200⟩ ⟨11, 1, 0, 7200⟩)

def santiagoChanges : List (Int × Nat) :=
  [(-2524504635, 0), (-1892661435, 1), (-1688410800, 0), (-1619205435, 2), (-1593806400, 0),
   (-1335986235, 3), (-1317585600, 1), (-1304362800, 3), (-1286049600, 1), (-1272826800, 3),
   (-1254513600, 1), (-1241290800, 3), (-1222977600, 1), (-1209754800, 3), (-1191355200, 1),
   (-1178132400, 2), (-870552000, 1), (-865278000, 2), (-740520000, 4), (-736635600, 3),
   (-718056000, 1), (-713649600, 2), (-36619200, 4), (-23922000, 2), (-3355200, 4), (7527600, 2),
   (24465600, 4), (37767600, 2), (55915200, 4), (69217200, 2), (87969600, 4), (100666800, 2),
   (118209600, 4), (132116400, 2), (150868800, 4), (163566000, 2), (182318400, 4), (195620400, 2),
   (213768000, 4), (227070000, 2), (245217600, 4), (258519600, 2), (277272000, 4), (289969200, 2),
   (308721600, 4), (321418800, 2), (340171200, 4), (353473200, 2), (371620800, 4), (384922800, 2),
   (403070400, 4), (416372400, 2), (434520000, 4), (447822000, 2), (466574400, 4), (479271600, 2),
   (498024000, 4), (510721200, 2), (529473600, 4), (545194800, 2), (560923200, 4), (574225200, 2),
   (592372800, 4), (605674800, 2), (624427200, 4), (637124400, 2), (653457600, 4), (668574000, 2),
   (687326400, 4), (700628400, 2), (718776000, 4), (732078000, 2), (750225600, 4), (763527600, 2),
   (781675200, 4), (794977200, 2), (813729600, 4), (826426800, 2), (845179200, 4), (859690800, 2),
   (876628800, 4), (889930800, 2), (906868800, 4), (923194800, 2), (939528000, 4), (952830000, 2),
   (971582400, 4), (984279600, 2), (1003032000, 4), (1015729200, 2), (1034481600, 4),
   (1047178800, 2), (1065931200, 4), (1079233200, 2), (1097380800, 4), (1110682800, 2),
   (1128830400, 4), (1142132400, 2), (1160884800, 4), (1173582000, 2), (1192334400, 4),
   (1206846000, 2), (1223784000, 4), (1237086000, 2), (1255233600, 4), (1270350000, 2),
   (1286683200, 4), (1304823600, 2), (1313899200, 4), (1335668400, 2), (1346558400, 4),
   (1367118000, 2), (1378612800, 4), (1398567600, 2), (1410062400, 4), (1463281200, 2),
   (1471147200, 4), (1494730800, 2), (1502596800, 4), (1526180400, 2), (1534046400, 4),
   (1554606000, 2), (1567915200, 4), (1586055600, 2), (1599364800, 4), (1617505200, 2),
   (1630814400, 4), (1648954800, 2), (1662868800, 4), (1680404400, 2)]

def santiago : Zone :=
  ofTable "America/Santiago" [⟨-16965, 0⟩, ⟨-18000, 0⟩, ⟨-14400, 0⟩, ⟨-14400, 2565⟩, ⟨-10800, 3600⟩]
    santiagoChanges
    (.yearly ⟨-14400, 0⟩ ⟨-10800, 3600⟩ ⟨9, 1, 6, 86400⟩ ⟨4, 1, 6, 86400⟩)

def casablancaChanges : List (Int × Nat) :=
  [(-1773012580, 1), (-956361600, 2), (-950490000, 1), (-942019200, 2), (-761187600, 1),
   (-617241600, 2), (-605149200, 1), (-81432000, 2), (-71110800, 1), (141264000, 2),
   (147222000, 1), (199756800, 2), (207702000, 1), (231292800, 2), (244249200, 1), (265507200, 2),
   (271033200, 1), (448243200, 3), (504918000, 1), (1212278400, 2), (1220223600, 1),
   (1243814400, 2), (1250809200, 1), (1272758400, 2), (1281222000, 1), (1301788800, 2),
   (1312066800, 1), (1335664800, 2), (1342749600, 1), (1345428000, 2), (1348970400, 1),
   (1367114400, 2), (1373162400, 1), (1376100000, 2), (1382839200, 1), (1396144800, 2),
   (1403920800, 1), (1406944800, 2), (1414288800, 1), (1427594400, 2), (1434247200, 1),
   (1437271200, 2), (1445738400, 1), (1459044000, 2), (1465092000, 1), (1468116000, 2),
   (1477792800, 1), (1490493600, 2), (1495332000, 1), (1498960800, 2), (1509242400, 1),
   (1521943200, 2), (1526176800, 1), (1529200800, 2), (1540692000, 3), (1557021600, 4),
   (1560045600, 3), (1587261600, 4), (1590890400, 3), (1618106400, 4), (1621130400, 3),
   (1648346400, 4), (1651975200, 3), (1679191200, 4), (1682215200, 3), (1710036000, 4),
   (1713060000, 3), (1740276000, 4), (1743904800, 3), (1771120800, 4), (1774144800, 3),
   (1801965600, 4), (1804989600, 3), (1832205600, 4), (1835834400, 3), (1863050400, 4),
   (1866074400, 3), (1893290400, 4), (1896919200, 3), (1924135200, 4), (1927159200, 3),
   (1954980000, 4), (1958004000, 3), (1985220000, 4), (1988848800, 3), (2016064800, 4),
   (2019088800, 3), (2046304800, 4), (2049933600, 3), (2077149600, 4), (2080778400, 3),
   (2107994400, 4), (2111018400, 3), (2138234400, 4), (2141863200, 3), (2169079200, 4),
   (2172103200, 3), (2199924000, 4), (2202948000, 3), (2230164000, 4), (2233792800, 3),
   (2261008800, 4), (2264032800, 3), (2291248800, 4), (2294877600, 3), (2322093600, 4),
   (2325722400, 3), (2352938400, 4), (2355962400, 3), (2383178400, 4), (2386807200, 3),
   (2414023200, 4), (2417047200, 3), (2444868000, 4), (2447892000, 3), (2475108000, 4),
   (2478736800, 3), (2505952800, 4), (2508976800, 3), (2536192800, 4), (2539821600, 3),
   (2567037600, 4), (2570666400, 3), (2597882400, 4), (2600906400, 3), (2628122400, 4),
   (2631751200, 3), (2658967200, 4), (2661991200, 3), (2689812000, 4), (2692836000, 3),
   (2720052000, 4), (2723680800, 3), (2750896800, 4), (2753920800, 3), (2781136800, 4),
   (2784765600, 3), (2811981600, 4), (2815610400, 3), (2842826400, 4), (2845850400, 3),
   (2873066400, 4), (2876695200, 3), (2903911200, 4), (2906935200, 3), (2934756000, 4),
   (2937780000, 3), (2964996000, 4), (2968624800, 3), (2995840800, 4), (2998864800, 3),
   (3026080800, 4), (3029709600, 3), (3056925600, 4), (3060554400, 3), (3087770400, 4),
   (3090794400, 3), (3118010400, 4), (3121639200, 3), (3148855200, 4), (3151879200, 3),
   (3179700000, 4), (3182724000, 3), (3209940000, 4), (3213568800, 3), (3240784800, 4),
   (3243808800, 3), (3271024800, 4), (3274653600, 3), (3301869600, 4), (3305498400, 3),
   (3332714400, 4), (3335738400, 3), (3362954400, 4), (3366583200, 3), (3393799200, 4),
   (3396823200, 3), (3424644000, 4), (3427668000, 3), (3454884000, 4), (3458512800, 3),
   (3485728800, 4), (3488752800, 3), (3515968800, 4), (3519597600, 3), (3546813600, 4),
   (3549837600, 3), (3577658400, 4), (3580682400, 3), (3607898400, 4), (3611527200, 3),
   (3638743200, 4), (3641767200, 3), (3669588000, 4), (3672612000, 3), (3699828000, 4),
   (3703456800, 3)]

def casablanca : Zone :=
  ofTable "Africa/Casablanca" [⟨-1820, 0⟩, ⟨0, 0⟩, ⟨3600, 3600⟩, ⟨3600, 0⟩, ⟨0, -3600⟩]
    casablancaChanges (.fixed ⟨3600, 0⟩)

def kolkataChanges : List (Int × Nat) :=
  [(-3645237208, 1), (-3155694800, 2), (-2019705670, 3), (-891581400, 4), (-872058600, 3),
   (-862637400, 4), (-764145000, 3)]

def kolkata : Zone :=
  ofTable "Asia/Kolkata" [⟨21208, 0⟩, ⟨21200, 0⟩, ⟨19270, 0⟩, ⟨19800, 0⟩, ⟨23400, 3600⟩]
    kolkataChanges (.fixed ⟨19800, 0⟩)

/-- Another name for the clocks of New York. -/
def eastern : Zone :=
  { newYork with name := "US/Eastern" }

/-- All zones, each under its own name. -/
def known : List Zone :=
  [universal, fiveWest, newYork, brussels, london, dublin, lordHowe, saoPaulo, apia, kathmandu,
   tokyo, monrovia, stJohns, santiago, casablanca, kolkata, eastern]

end CalendarSeries.Zone
